import Nethernet.Foundation.Machine
import Nethernet.Router

/-! One UDP socket that serves every session of the async server: each datagram
is routed to the session it belongs to.

The operations of the routes and the dispatch of a datagram each hold the lock
of the shared state once, so a run is a list of them in some order. -/

set_option autoImplicit false

namespace Nethernet.Tokio
open Foundation

/-- What a datagram tells as STUN. -/
structure StunReader where
  isStun : Bytes → Bool
  localUfrag : Bytes → Option String

-- a dual-stack socket reports IPv4 peers in their mapped form; keys use the plain form either way
def canonical (addr : SocketAddr) : SocketAddr := .new (Endpoint.normalize addr.ip) addr.port

theorem canonical_mapped (ip : BitVec 32) (port : UInt16) (flowinfo scopeId : UInt32) :
    canonical (.v6 (Endpoint.mapped ip) port flowinfo scopeId) = canonical (.v4 ip port) := by
  rw [canonical, SocketAddr.ip, Endpoint.normalize_mapped]
  rfl

abbrev SharedRouter := Router Nat

namespace SharedRouter

def route (stun : StunReader) (router : SharedRouter) (source : SocketAddr) (datagram : Bytes) : List Nat :=
  Router.route router stun.isStun stun.localUfrag (canonical source) datagram

/-- Whether `id` owns `addr` afterwards; the first session to claim an address keeps it. -/
def claimAddr (router : SharedRouter) (addr : SocketAddr) (id : Nat) : SharedRouter × Bool :=
  let claimed := Router.claimAddr router (canonical addr) id
  (claimed, claimed.byAddr.lookup (canonical addr) = some id)

def noteSent (router : SharedRouter) (addr : SocketAddr) (id : Nat) : SharedRouter :=
  Router.noteSent router (canonical addr) id

-- unlike the pool's router, a fragment that another session registered since is left to it
def release (router : SharedRouter) (id : Nat) (ufrag : String) (addr : Option SocketAddr) : SharedRouter :=
  { Router.release router id ufrag (addr.map canonical) with
    byUfrag := if router.byUfrag.lookup ufrag = some id then router.byUfrag.erase ufrag else router.byUfrag }

end SharedRouter

def routeChannelCapacity : Nat := 1024

abbrev Datagram := Bytes × SocketAddr

/-- The state under the lock; a session is here by the channel its datagrams go to. -/
structure SharedState where
  nextId : Nat
  sessions : Table Nat (List Datagram)
  router : SharedRouter

/-- One session's view of the shared socket, under the id it was given. -/
structure SharedRoute where
  localUfrag : String
  remoteAddr : Option SocketAddr
  deriving DecidableEq, Repr

/-- The shared state and the routes that are alive, in whatever task. -/
structure SharedSocket where
  state : SharedState
  routes : Table Nat SharedRoute

namespace SharedState

def new : SharedState := ⟨0, ∅, .empty⟩

-- a full channel drops the datagram
def trySend (datagram : Datagram) (sessions : Table Nat (List Datagram)) (id : Nat) : Table Nat (List Datagram) :=
  match sessions.lookup id with
  | none => sessions
  | some queue => if queue.length < routeChannelCapacity then sessions.insert id (queue ++ [datagram]) else sessions

def dispatch (stun : StunReader) (state : SharedState) (source : SocketAddr) (datagram : Bytes) : SharedState :=
  { state with
    sessions := (SharedRouter.route stun state.router source datagram).foldl (trySend (datagram, source)) state.sessions }

end SharedState

inductive SharedCall where
  | route (localUfrag : String)
  | recvFrom (id : Nat)
  | sendTo (id : Nat) (addr : SocketAddr)
  | claim (id : Nat) (addr : SocketAddr)
  | drop (id : Nat)
  | dispatch (source : SocketAddr) (datagram : Bytes)

variable (stun : StunReader) {source : SocketAddr}

namespace SharedSocket

def new : SharedSocket := ⟨.new, ∅⟩

def route (shared : SharedSocket) (localUfrag : String) : SharedSocket where
  state :=
    { nextId := shared.state.nextId + 1
      sessions := shared.state.sessions.insert shared.state.nextId []
      router := shared.state.router.registerUfrag localUfrag shared.state.nextId }
  routes := shared.routes.insert shared.state.nextId ⟨localUfrag, none⟩

def recvFrom (shared : SharedSocket) (id : Nat) : SharedSocket :=
  match shared.state.sessions.lookup id with
  | none => shared
  | some queue => { shared with state := { shared.state with sessions := shared.state.sessions.insert id queue.tail } }

-- the datagram itself goes to the socket without the lock
def sendTo (shared : SharedSocket) (id : Nat) (addr : SocketAddr) : SharedSocket :=
  match shared.routes.lookup id with
  | none => shared
  | some route =>
    if route.remoteAddr.isNone then
      { shared with state := { shared.state with router := SharedRouter.noteSent shared.state.router addr id } }
    else shared

def claim (shared : SharedSocket) (id : Nat) (addr : SocketAddr) : SharedSocket :=
  match shared.routes.lookup id with
  | none => shared
  | some route =>
    if route.remoteAddr.isNone then
      let (router, owns) := SharedRouter.claimAddr shared.state.router addr id
      { state := { shared.state with router := router }
        routes := if owns then shared.routes.insert id { route with remoteAddr := some addr } else shared.routes }
    else shared

def dropRoute (shared : SharedSocket) (id : Nat) : SharedSocket :=
  match shared.routes.lookup id with
  | none => shared
  | some route =>
    { state :=
        { shared.state with
          sessions := shared.state.sessions.erase id
          router := SharedRouter.release shared.state.router id route.localUfrag route.remoteAddr }
      routes := shared.routes.erase id }

def next (stun : StunReader) (shared : SharedSocket) : SharedCall → SharedSocket
  | .route localUfrag => shared.route localUfrag
  | .recvFrom id => shared.recvFrom id
  | .sendTo id addr => shared.sendTo id addr
  | .claim id addr => shared.claim id addr
  | .drop id => shared.dropRoute id
  | .dispatch source datagram => { shared with state := shared.state.dispatch stun source datagram }

def step (stun : StunReader) (shared : SharedSocket) (call : SharedCall) : SharedSocket × Unit :=
  (shared.next stun call, ())

-- the datagrams that wait for a session
def queue (shared : SharedSocket) (id : Nat) : Option (List Datagram) := shared.state.sessions.lookup id

/-! ## What holds of the three maps -/

/-- The route of `id` claimed the address. -/
def Claims (shared : SharedSocket) (id : Nat) (addr : SocketAddr) : Prop :=
  ∃ route, shared.routes.lookup id = some route ∧ route.remoteAddr.map canonical = some (canonical addr)

/-- Everything in the maps belongs to a route that is alive. -/
structure Sound (shared : SharedSocket) : Prop where
  sessions : ∀ id, id ∈ shared.state.sessions ↔ id ∈ shared.routes
  used : ∀ id ∈ shared.routes, id < shared.state.nextId
  byAddr : ∀ addr id, shared.state.router.byAddr.lookup addr = some id ↔
    ∃ route, shared.routes.lookup id = some route ∧ route.remoteAddr.map canonical = some addr
  byUfrag : ∀ ufrag id, shared.state.router.byUfrag.lookup ufrag = some id →
    ∃ route, shared.routes.lookup id = some route ∧ route.localUfrag = ufrag
  provisional : ∀ addr ids, shared.state.router.provisional.lookup addr = some ids →
    ids ≠ [] ∧ ids.Nodup ∧ ∀ id ∈ ids, id ∈ shared.routes

theorem sound_new : Sound new where
  sessions _ := ⟨nofun, nofun⟩
  used _ none := nomatch none
  byAddr _ _ := ⟨nofun, nofun⟩
  byUfrag _ _ := nofun
  provisional _ _ := nofun

section
variable {shared : SharedSocket}

theorem Sound.route (sound : Sound shared) (localUfrag : String) : Sound (shared.route localUfrag) := by
  have unused : shared.state.nextId ∉ shared.routes := fun member => Nat.lt_irrefl _ (sound.used _ member)
  -- a route that was there is there still
  have kept {id : Nat} {route : SharedRoute} (there : shared.routes.lookup id = some route) :
      (shared.routes.insert shared.state.nextId ⟨localUfrag, none⟩).lookup id = some route := by
    have apart : id ≠ shared.state.nextId := by
      rintro rfl
      exact unused (Table.mem_of_lookup there)
    rw [AList.lookup_insert_ne apart, there]
  constructor
  · intro id
    simp only [SharedSocket.route, AList.mem_insert, sound.sessions]
  · intro id member
    rcases (AList.mem_insert _).mp member with rfl | old
    · exact Nat.lt_succ_self _
    · exact Nat.lt_succ_of_lt (sound.used id old)
  · intro addr id
    refine (sound.byAddr addr id).trans ⟨?_, ?_⟩
    · rintro ⟨route, there, claimed⟩
      exact ⟨route, kept there, claimed⟩
    · rintro ⟨route, there, claimed⟩
      by_cases same : id = shared.state.nextId
      · subst same
        simp only [SharedSocket.route, AList.lookup_insert, Option.some.injEq] at there
        subst there
        cases claimed
      · simp only [SharedSocket.route, AList.lookup_insert_ne same] at there
        exact ⟨route, there, claimed⟩
  · intro ufrag id registered
    by_cases same : ufrag = localUfrag
    · subst same
      simp only [SharedSocket.route, Router.registerUfrag, AList.lookup_insert, Option.some.injEq] at registered
      subst registered
      exact ⟨⟨ufrag, none⟩, AList.lookup_insert _, rfl⟩
    · simp only [SharedSocket.route, Router.registerUfrag, AList.lookup_insert_ne same] at registered
      obtain ⟨route, there, named⟩ := sound.byUfrag ufrag id registered
      exact ⟨route, kept there, named⟩
  · intro addr ids noted
    obtain ⟨nonempty, distinct, alive⟩ := sound.provisional addr ids noted
    exact ⟨nonempty, distinct, fun id member => (AList.mem_insert _).mpr (.inr (alive id member))⟩

-- the channels may change as long as no session comes or goes
theorem Sound.channels (sound : Sound shared) {sessions : Table Nat (List Datagram)}
    (same : ∀ id, id ∈ sessions ↔ id ∈ shared.state.sessions) :
    Sound { shared with state := { shared.state with sessions := sessions } } :=
  { sound with sessions := fun id => (same id).trans (sound.sessions id) }

theorem Sound.recvFrom (sound : Sound shared) (id : Nat) : Sound (shared.recvFrom id) := by
  unfold SharedSocket.recvFrom
  split
  · exact sound
  · rename_i queue there
    exact sound.channels fun _ => Table.mem_insert_of_mem (Table.mem_of_lookup there) _

/-- A channel that was given a datagram. -/
def received (datagram : Datagram) (queue : List Datagram) : List Datagram :=
  if queue.length < routeChannelCapacity then queue ++ [datagram] else queue

theorem lookup_trySend (datagram : Datagram) (sessions : Table Nat (List Datagram)) (id other : Nat) :
    (SharedState.trySend datagram sessions id).lookup other =
      if other = id then (sessions.lookup other).map (received datagram) else sessions.lookup other := by
  unfold SharedState.trySend received
  by_cases same : other = id
  · subst same
    rw [if_pos rfl]
    cases there : sessions.lookup other with
    | none => exact there
    | some queue =>
      dsimp only [Option.map_some]
      split
      · exact AList.lookup_insert _
      · exact there
  · rw [if_neg same]
    split
    · rfl
    · split
      · exact AList.lookup_insert_ne same
      · rfl

theorem lookup_foldl_trySend (datagram : Datagram) {ids : List Nat} (distinct : ids.Nodup)
    (sessions : Table Nat (List Datagram)) (id : Nat) :
    (ids.foldl (SharedState.trySend datagram) sessions).lookup id =
      if id ∈ ids then (sessions.lookup id).map (received datagram) else sessions.lookup id := by
  induction ids generalizing sessions with
  | nil => rfl
  | cons first rest ih =>
    obtain ⟨apart, distinct⟩ := List.nodup_cons.mp distinct
    rw [List.foldl_cons, ih distinct, lookup_trySend]
    by_cases same : id = first
    · subst same
      rw [if_neg apart, if_pos rfl, if_pos List.mem_cons_self]
    · simp [same]

theorem Sound.nodup_route (sound : Sound shared) (source : SocketAddr) (datagram : Bytes) :
    (SharedRouter.route stun shared.state.router source datagram).Nodup := by
  unfold SharedRouter.route Router.route
  split
  · exact List.nodup_singleton _
  · split
    · exact .nil
    · split
      · exact List.nodup_singleton _
      · cases noted : shared.state.router.provisional.lookup (canonical source) with
        | none => exact .nil
        | some ids => exact (sound.provisional _ ids noted).2.1

/-- A dispatch gives the datagram to the sessions it is routed to, and to no other. -/
theorem Sound.queue_dispatch (sound : Sound shared) (source : SocketAddr) (datagram : Bytes) (id : Nat) :
    (shared.next stun (.dispatch source datagram)).queue id =
      if id ∈ SharedRouter.route stun shared.state.router source datagram
      then (shared.queue id).map (received (datagram, source)) else shared.queue id :=
  lookup_foldl_trySend (datagram, source) (sound.nodup_route stun source datagram) shared.state.sessions id

theorem Sound.dispatch (sound : Sound shared) (source : SocketAddr) (datagram : Bytes) :
    Sound (shared.next stun (.dispatch source datagram)) := by
  refine sound.channels fun id => ?_
  rw [← AList.lookup_isSome, ← AList.lookup_isSome, lookup_foldl_trySend _ (sound.nodup_route stun source datagram)]
  split
  · rw [Option.isSome_map]
  · rfl

theorem Sound.sendTo (sound : Sound shared) (id : Nat) (addr : SocketAddr) : Sound (shared.sendTo id addr) := by
  unfold SharedSocket.sendTo
  split
  · exact sound
  · rename_i route there
    split
    · refine { sound with provisional := fun other ids noted => ?_ }
      by_cases same : other = canonical addr
      · subst same
        simp only [SharedRouter.noteSent, Router.noteSent, AList.lookup_insert, Option.some.injEq] at noted
        subst noted
        have before : ((shared.state.router.provisional.lookup (canonical addr)).getD []).Nodup ∧
            ∀ other ∈ (shared.state.router.provisional.lookup (canonical addr)).getD [], other ∈ shared.routes := by
          cases noted : shared.state.router.provisional.lookup (canonical addr) with
          | none => exact ⟨.nil, nofun⟩
          | some ids => exact (sound.provisional _ ids noted).2
        refine ⟨List.ne_nil_of_mem List.mem_insert_self, before.1.insert, fun other member => ?_⟩
        rcases List.mem_insert_iff.mp member with rfl | old
        · exact Table.mem_of_lookup there
        · exact before.2 other old
      · simp only [SharedRouter.noteSent, Router.noteSent, AList.lookup_insert_ne same] at noted
        exact sound.provisional other ids noted
    · exact sound

/-- A claim takes an address that nobody holds, or changes nothing. -/
theorem Sound.claim_cases (sound : Sound shared) (id : Nat) (addr : SocketAddr) :
    shared.claim id addr = shared ∨
    ∃ route, shared.routes.lookup id = some route ∧ route.remoteAddr = none ∧
      shared.state.router.byAddr.lookup (canonical addr) = none ∧
      shared.claim id addr =
        { state := { shared.state with
            router := { shared.state.router with byAddr := shared.state.router.byAddr.insert (canonical addr) id } }
          routes := shared.routes.insert id { route with remoteAddr := some addr } } := by
  unfold SharedSocket.claim
  split
  · exact .inl rfl
  · rename_i route there
    split
    · rename_i unclaimed
      have unclaimed : route.remoteAddr = none := Option.isNone_iff_eq_none.mp unclaimed
      cases owner : shared.state.router.byAddr.lookup (canonical addr) with
      | none =>
        refine .inr ⟨route, there, unclaimed, rfl, ?_⟩
        simp only [SharedRouter.claimAddr, Router.claimAddr, owner, AList.lookup_insert, decide_true, if_true]
      | some other =>
        have another : other ≠ id := by
          rintro rfl
          obtain ⟨found, here, claimed⟩ := (sound.byAddr _ _).mp owner
          cases there.symm.trans here
          rw [unclaimed] at claimed
          cases claimed
        left
        simp [SharedRouter.claimAddr, Router.claimAddr, owner, another]
    · exact .inl rfl

theorem Sound.claim (sound : Sound shared) (id : Nat) (addr : SocketAddr) : Sound (shared.claim id addr) := by
  rcases sound.claim_cases id addr with same | ⟨route, there, unclaimed, free, after⟩
  · rw [same]
    exact sound
  have members (other : Nat) : other ∈ shared.routes.insert id { route with remoteAddr := some addr } ↔
      other ∈ shared.routes := Table.mem_insert_of_mem (Table.mem_of_lookup there) _
  rw [after]
  constructor
  · exact fun other => (sound.sessions other).trans (members other).symm
  · exact fun other member => sound.used other ((members other).mp member)
  · intro place other
    by_cases same : other = id
    · subst same
      rw [AList.lookup_insert]
      by_cases here : place = canonical addr
      · subst here
        rw [AList.lookup_insert]
        exact ⟨fun _ => ⟨_, rfl, rfl⟩, fun _ => rfl⟩
      · rw [AList.lookup_insert_ne here, sound.byAddr]
        constructor
        · rintro ⟨found, old, claimed⟩
          cases there.symm.trans old
          rw [unclaimed] at claimed
          cases claimed
        · rintro ⟨found, new, claimed⟩
          cases new
          exact absurd (Option.some.inj claimed).symm here
    · rw [AList.lookup_insert_ne same, ← sound.byAddr]
      by_cases here : place = canonical addr
      · subst here
        rw [AList.lookup_insert, free]
        exact ⟨fun taken => absurd (Option.some.inj taken).symm same, nofun⟩
      · rw [AList.lookup_insert_ne here]
  · intro ufrag other registered
    obtain ⟨found, old, named⟩ := sound.byUfrag ufrag other registered
    by_cases same : other = id
    · subst same
      cases there.symm.trans old
      exact ⟨_, AList.lookup_insert _, named⟩
    · exact ⟨found, by rw [AList.lookup_insert_ne same, old], named⟩
  · intro place ids noted
    obtain ⟨nonempty, distinct, alive⟩ := sound.provisional place ids noted
    exact ⟨nonempty, distinct, fun other member => (members other).mpr (alive other member)⟩

/-- The maps after the release of a route, by lookup. -/
theorem lookup_release (router : SharedRouter) (id : Nat) (ufrag : String) (remoteAddr : Option SocketAddr) :
    (∀ addr, (SharedRouter.release router id ufrag remoteAddr).byAddr.lookup addr =
      if remoteAddr.map canonical = some addr ∧ router.byAddr.lookup addr = some id then none
      else router.byAddr.lookup addr) ∧
    (∀ other, (SharedRouter.release router id ufrag remoteAddr).byUfrag.lookup other =
      if other = ufrag ∧ router.byUfrag.lookup other = some id then none else router.byUfrag.lookup other) ∧
    ∀ addr, (SharedRouter.release router id ufrag remoteAddr).provisional.lookup addr =
      ((router.provisional.lookup addr).map (·.erase id)).filter (!·.isEmpty) := by
  refine ⟨fun addr => ?_, fun other => ?_, fun addr => ?_⟩
  · cases remoteAddr with
    | none => simp [SharedRouter.release, Router.release]
    | some claimed =>
      simp only [SharedRouter.release, Router.release, Option.map_some, Option.some.injEq]
      rw [Table.lookup_erase_if]
      simp only [eq_comm]
  · exact Table.lookup_erase_if router.byUfrag ufrag id other
  · simp only [SharedRouter.release, Router.release, Table.lookup_retain, Table.lookup_map]

theorem Sound.dropRoute (sound : Sound shared) (id : Nat) : Sound (shared.dropRoute id) := by
  unfold SharedSocket.dropRoute
  split
  · exact sound
  rename_i route there
  obtain ⟨byAddr, byUfrag, provisional⟩ :=
    lookup_release shared.state.router id route.localUfrag route.remoteAddr
  have members (other : Nat) : other ∈ shared.routes.erase id ↔ other ≠ id ∧ other ∈ shared.routes := AList.mem_erase
  constructor
  · intro other
    rw [members, ← sound.sessions]
    exact AList.mem_erase
  · exact fun other member => sound.used other ((members other).mp member).2
  · intro addr other
    rw [byAddr]
    by_cases same : other = id
    · subst same
      rw [AList.lookup_erase]
      constructor
      · intro owned
        split at owned
        · cases owned
        · -- what the dropped route owned is what it recorded
          rename_i kept
          obtain ⟨found, here, claimed⟩ := (sound.byAddr _ _).mp owned
          cases there.symm.trans here
          exact absurd ⟨claimed, owned⟩ kept
      · rintro ⟨found, gone, -⟩
        cases gone
    · rw [AList.lookup_erase_ne same, ← sound.byAddr]
      split
      · rename_i released
        rw [released.2]
        exact ⟨nofun, fun owner => absurd (Option.some.inj owner).symm same⟩
      · rfl
  · intro ufrag other registered
    rw [byUfrag] at registered
    split at registered
    · cases registered
    · rename_i kept
      obtain ⟨found, old, named⟩ := sound.byUfrag ufrag other registered
      have apart : other ≠ id := by
        rintro rfl
        cases there.symm.trans old
        exact kept ⟨named.symm, registered⟩
      exact ⟨found, by rw [AList.lookup_erase_ne apart, old], named⟩
  · intro addr ids noted
    rw [provisional, Option.filter_eq_some_iff, Option.map_eq_some_iff] at noted
    obtain ⟨⟨old, before, rfl⟩, nonempty⟩ := noted
    obtain ⟨-, distinct, alive⟩ := sound.provisional addr old before
    refine ⟨fun none => by simp [none] at nonempty, distinct.erase id, fun other member => ?_⟩
    have left := (distinct.mem_erase_iff).mp member
    exact (members other).mpr ⟨left.1, alive other left.2⟩

end

theorem sound_step (shared : SharedSocket) (call : SharedCall) (sound : Sound shared) :
    Sound (step stun shared call).1 := by
  cases call with
  | route localUfrag => exact sound.route localUfrag
  | recvFrom id => exact sound.recvFrom id
  | sendTo id addr => exact sound.sendTo id addr
  | claim id addr => exact sound.claim id addr
  | drop id => exact sound.dropRoute id
  | dispatch source datagram => exact sound.dispatch stun source datagram

/-- The socket after some operations of its routes and dispatches, in any order. -/
def Reached (stun : StunReader) (shared : SharedSocket) : Prop :=
  ∃ calls, (run (step stun) new calls).1 = shared

theorem Reached.sound {stun : StunReader} {shared : SharedSocket} (reached : Reached stun shared) : Sound shared := by
  obtain ⟨calls, rfl⟩ := reached
  exact run_invariant (step stun) (sound_step stun) sound_new calls

/-! ## Isolation -/

section
variable {shared : SharedSocket}

theorem Sound.route_of_claims (sound : Sound shared) {id : Nat} (claims : Claims shared id source) (datagram : Bytes) :
    SharedRouter.route stun shared.state.router source datagram = [id] := by
  have owner : shared.state.router.byAddr.lookup (canonical source) = some id := (sound.byAddr _ _).mpr claims
  rw [SharedRouter.route, Router.route, owner]

theorem Sound.route_of_unclaimed {stun : StunReader} (sound : Sound shared)
    (unclaimed : ∀ id, ¬ Claims shared id source) {datagram : Bytes} (other : stun.isStun datagram = false) :
    SharedRouter.route stun shared.state.router source datagram = [] := by
  have free : shared.state.router.byAddr.lookup (canonical source) = none := by
    cases owner : shared.state.router.byAddr.lookup (canonical source) with
    | none => rfl
    | some id => exact absurd ((sound.byAddr _ _).mp owner) (unclaimed id)
  rw [SharedRouter.route, Router.route, free, other]
  rfl

theorem Sound.queue_of_mem (sound : Sound shared) {id : Nat} (alive : id ∈ shared.routes) :
    ∃ waiting, shared.queue id = some waiting :=
  Option.isSome_iff_exists.mp (AList.lookup_isSome.mpr ((sound.sessions id).mpr alive))

-- a queue that a dispatch changes is that of a route that is alive
theorem Sound.dispatch_to_alive (sound : Sound shared) (source : SocketAddr) (datagram : Bytes) (id : Nat) :
    (shared.next stun (.dispatch source datagram)).queue id = shared.queue id ∨
      id ∈ shared.routes ∧
        (shared.next stun (.dispatch source datagram)).queue id = (shared.queue id).map (received (datagram, source)) := by
  rw [sound.queue_dispatch]
  split
  · by_cases alive : id ∈ shared.routes
    · exact .inr ⟨alive, rfl⟩
    · have none : shared.queue id = none := AList.lookup_eq_none.mpr fun there => alive ((sound.sessions id).mp there)
      rw [none]
      exact .inl rfl
  · exact .inl rfl

theorem Sound.dispatch_to_claimant (sound : Sound shared) {id : Nat} (claims : Claims shared id source)
    (datagram : Bytes) :
    (∃ waiting, shared.queue id = some waiting ∧
      (shared.next stun (.dispatch source datagram)).queue id = some (received (datagram, source) waiting)) ∧
    ∀ other, other ≠ id → (shared.next stun (.dispatch source datagram)).queue other = shared.queue other := by
  have routed := sound.route_of_claims stun claims datagram
  obtain ⟨route, there, -⟩ := claims
  obtain ⟨waiting, queued⟩ := sound.queue_of_mem (Table.mem_of_lookup there)
  constructor
  · refine ⟨waiting, queued, ?_⟩
    rw [sound.queue_dispatch, routed, if_pos List.mem_cons_self, queued, Option.map_some]
  · intro other apart
    rw [sound.queue_dispatch, routed, if_neg (by simpa using apart)]

/-- No operation but its drop takes from a route what it claimed. -/
theorem Sound.claims_step (sound : Sound shared) {id : Nat} {addr : SocketAddr} (claims : Claims shared id addr)
    {call : SharedCall} (kept : call ≠ .drop id) : Claims (step stun shared call).1 id addr := by
  obtain ⟨route, there, claimed⟩ := claims
  have alive : id ∈ shared.routes := Table.mem_of_lookup there
  cases call with
  | route localUfrag =>
    have apart : id ≠ shared.state.nextId := Nat.ne_of_lt (sound.used id alive)
    exact ⟨route, by rw [step, next, SharedSocket.route, AList.lookup_insert_ne apart, there], claimed⟩
  | recvFrom other =>
    refine ⟨route, ?_, claimed⟩
    rw [← there, step, next, SharedSocket.recvFrom]
    split <;> rfl
  | sendTo other place =>
    refine ⟨route, ?_, claimed⟩
    rw [← there, step, next, SharedSocket.sendTo]
    split
    · rfl
    · split <;> rfl
  | claim other place =>
    rcases sound.claim_cases other place with same | ⟨found, here, unclaimed, -, after⟩
    · exact ⟨route, by rw [step, next, same, there], claimed⟩
    · have apart : id ≠ other := by
        rintro rfl
        cases there.symm.trans here
        rw [unclaimed] at claimed
        cases claimed
      exact ⟨route, by rw [step, next, after, AList.lookup_insert_ne apart, there], claimed⟩
  | drop other =>
    have apart : id ≠ other := fun same => kept (by rw [same])
    refine ⟨route, ?_, claimed⟩
    rw [step, next, SharedSocket.dropRoute]
    split
    · exact there
    · rw [AList.lookup_erase_ne apart, there]
  | dispatch source datagram => exact ⟨route, there, claimed⟩

theorem Sound.claims_run (sound : Sound shared) {id : Nat} {addr : SocketAddr} (claims : Claims shared id addr)
    {calls : List SharedCall} (kept : .drop id ∉ calls) : Claims (run (step stun) shared calls).1 id addr := by
  induction calls generalizing shared with
  | nil => exact claims
  | cons call rest ih =>
    rw [List.mem_cons, not_or] at kept
    exact ih (sound_step stun shared call sound) (sound.claims_step stun claims (Ne.symm kept.1)) kept.2

theorem Sound.router_empty (sound : Sound shared) (none : shared.routes = ∅) :
    shared.state.router.byAddr = ∅ ∧ shared.state.router.provisional = ∅ ∧ shared.state.router.byUfrag = ∅ := by
  have gone (id : Nat) (route : SharedRoute) : shared.routes.lookup id ≠ some route := by
    rw [none]
    nofun
  refine ⟨Table.eq_empty fun addr => ?_, Table.eq_empty fun addr => ?_, Table.eq_empty fun ufrag => ?_⟩
  · cases owner : shared.state.router.byAddr.lookup addr with
    | none => rfl
    | some id =>
      obtain ⟨route, there, -⟩ := (sound.byAddr addr id).mp owner
      exact absurd there (gone id route)
  · cases noted : shared.state.router.provisional.lookup addr with
    | none => rfl
    | some ids =>
      obtain ⟨nonempty, -, alive⟩ := sound.provisional addr ids noted
      obtain ⟨id, member⟩ := List.exists_mem_of_ne_nil ids nonempty
      have there := alive id member
      rw [none] at there
      cases there
  · cases registered : shared.state.router.byUfrag.lookup ufrag with
    | none => rfl
    | some id =>
      obtain ⟨route, there, -⟩ := sound.byUfrag ufrag id registered
      exact absurd there (gone id route)

end

/-- Sessions on the shared socket are kept apart: by the datagrams that reach their queues, by the addresses
they claim, in either form, and by what is left when they are gone. -/
theorem shared_sessions_isolated {stun : StunReader} {shared : SharedSocket} (reached : Reached stun shared) :
    (∀ source datagram id,
      (shared.next stun (.dispatch source datagram)).queue id = shared.queue id ∨
        id ∈ shared.routes ∧ (shared.next stun (.dispatch source datagram)).queue id =
          (shared.queue id).map (received (datagram, source))) ∧
    (∀ id source, Claims shared id source → ∀ datagram,
      (∃ waiting, shared.queue id = some waiting ∧
        (shared.next stun (.dispatch source datagram)).queue id = some (received (datagram, source) waiting)) ∧
      ∀ other, other ≠ id → (shared.next stun (.dispatch source datagram)).queue other = shared.queue other) ∧
    (∀ source, (∀ id, ¬ Claims shared id source) → ∀ datagram, stun.isStun datagram = false →
      ∀ id, (shared.next stun (.dispatch source datagram)).queue id = shared.queue id) ∧
    (∀ id addr, Claims shared id addr → ∀ calls, .drop id ∉ calls →
      Claims (run (step stun) shared calls).1 id addr) ∧
    (∀ id ip port flowinfo scopeId, Claims shared id (.v6 (Endpoint.mapped ip) port flowinfo scopeId) ↔
      Claims shared id (.v4 ip port)) ∧
    (shared.routes = ∅ → shared.state.router.byAddr = ∅ ∧ shared.state.router.provisional = ∅ ∧
      shared.state.router.byUfrag = ∅) := by
  have sound := reached.sound
  refine ⟨sound.dispatch_to_alive stun, fun id source claims => sound.dispatch_to_claimant stun claims,
    fun source unclaimed datagram other id => ?_, fun id addr claims calls kept => sound.claims_run stun claims kept,
    fun id ip port flowinfo scopeId => ?_, sound.router_empty⟩
  · rw [sound.queue_dispatch, sound.route_of_unclaimed unclaimed other, if_neg List.not_mem_nil]
  · rw [Claims, Claims, canonical_mapped]

/-- Two routes select one peer, which the socket reports in both forms. What it sends reaches the first of them only. -/
theorem first_claim_kept :
    let stun : StunReader := ⟨fun _ => false, fun _ => none⟩
    let mapped : SocketAddr := .v6 (Endpoint.mapped 0x7f000001) 1 0 0
    let calls : List SharedCall := [.route "a", .route "b", .sendTo 1 mapped, .claim 0 (.v4 0x7f000001 1), .claim 1 mapped]
    let shared := (run (step stun) new calls).1
    (∀ datagram, (shared.next stun (.dispatch mapped datagram)).queue 0 = some [(datagram, mapped)] ∧
      (shared.next stun (.dispatch mapped datagram)).queue 1 = some []) ∧
    (run (step stun) shared [.dispatch mapped [1], .drop 0, .drop 1]).1.state.router.byUfrag = ∅ := by
  intro stun mapped calls shared
  have claims : Claims shared 0 mapped := ⟨⟨"a", some (.v4 0x7f000001 1)⟩, by decide +kernel, by decide +kernel⟩
  have empty : shared.queue 0 = some [] ∧ shared.queue 1 = some [] := by decide +kernel
  constructor
  · intro datagram
    obtain ⟨⟨waiting, queued, given⟩, others⟩ := (shared_sessions_isolated ⟨calls, rfl⟩).2.1 0 mapped claims datagram
    cases empty.1.symm.trans queued
    exact ⟨given, (others 1 (by decide)).trans empty.2⟩
  · have reached : Reached stun (run (step stun) shared [.dispatch mapped [1], .drop 0, .drop 1]).1 :=
      ⟨calls ++ [.dispatch mapped [1], .drop 0, .drop 1], by rw [run_append]⟩
    exact ((shared_sessions_isolated reached).2.2.2.2.2 (AList.ext (by decide +kernel))).2.2

end SharedSocket

end Nethernet.Tokio
