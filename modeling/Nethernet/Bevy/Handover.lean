import Nethernet.Bevy.Driven
import Nethernet.Foundation.Machine
import Nethernet.Session.Opens

/-! What becomes of an address whose session left the pool.

A session records the address it selected, once, and claims it in the router. When
two sessions selected one address, the second has recorded it without owning it. -/

set_option autoImplicit false

namespace Nethernet
open Foundation

/-! ## Owners in the router -/

namespace Router
variable {K : Type} [DecidableEq K]

theorem lookup_release (router : Router K) (id : K) (ufrag : String) (recorded : Option SocketAddr) (addr : SocketAddr) :
    (router.release id ufrag recorded).byAddr.lookup addr =
      if recorded = some addr ∧ router.byAddr.lookup addr = some id then none else router.byAddr.lookup addr := by
  cases recorded with
  | none =>
    rw [if_neg (by simp)]
    rfl
  | some held =>
    have erased := Table.lookup_erase_if router.byAddr held id addr
    simp only [release, Option.some.injEq, eq_comm (a := held)]
    exact erased

end Router

/-! ## Turns of the thread's loop -/

/-- One iteration of the loop: at most one datagram, the commands that are there, then the round. -/
structure PoolTurn {crates : WebrtcCrates} (rtc : Rtc crates.Candidate) (K : Type) where
  packet : Option (SocketAddr × Bytes)
  received : Instant
  commands : List (PoolCommand K (Connection rtc))
  commanded : Instant
  now : Instant
  order : Visit K

namespace PoolThread
variable {crates : WebrtcCrates} {rtc : Rtc crates.Candidate} {K : Type} [DecidableEq K]

def beforeRound (stunUsername : Bytes → Option String) (thread : PoolThread rtc K) (turn : PoolTurn rtc K) :
    PoolThread rtc K :=
  let thread :=
    match turn.packet with
    | none => thread
    | some (source, datagram) => thread.receive stunUsername source datagram turn.received
  turn.commands.foldl (command turn.commanded) thread

def iterate (stunUsername : Bytes → Option String) (thread : PoolThread rtc K) (turn : PoolTurn rtc K) :
    PoolThread rtc K × List (K × ConnectionEvent) :=
  (thread.beforeRound stunUsername turn).round turn.now turn.order

/-- The session is in the pool and its connection reports the address. -/
def Reports (thread : PoolThread rtc K) (id : K) (addr : SocketAddr) : Prop :=
  ∃ entry, thread.entries.lookup id = some entry ∧ entry.connection.remoteAddr = some addr

/-- The session selects the address in the coming round and has recorded none before. -/
def selects (thread : PoolThread rtc K) (now : Instant) (addr : SocketAddr) (id : K) : Bool :=
  match thread.entries.lookup id with
  | none => false
  | some entry => entry.remoteAddr.isNone && (timeOut now entry).connection.remoteAddr = some addr

variable {thread : PoolThread rtc K}

theorem selects_iff {now : Instant} {addr : SocketAddr} {id : K} {entry : PoolEntry rtc}
    (stored : thread.entries.lookup id = some entry) :
    thread.selects now addr id = true ↔ entry.remoteAddr = none ∧ (timeOut now entry).connection.remoteAddr = some addr := by
  simp [selects, stored]

/-- The first session the round visits that newly selects the address. -/
def claimant (thread : PoolThread rtc K) (now : Instant) (order : Visit K) (addr : SocketAddr) : Option K :=
  (order.arrange thread.entries.keys).find? (thread.selects now addr)

/-- The session puts out a failure in the coming round. -/
def fails (thread : PoolThread rtc K) (now : Instant) (id : K) : Bool :=
  match thread.entries.lookup id with
  | none => false
  | some entry => .event .failed ∈ (timeOut now entry).connection.takeOutputs.2

/-- The session comes out of the coming round with a connection that reports the address. -/
def WillReport (thread : PoolThread rtc K) (now : Instant) (id : K) (addr : SocketAddr) : Prop :=
  thread.fails now id = false ∧
    ∃ entry, thread.entries.lookup id = some entry ∧ (timeOut now entry).connection.remoteAddr = some addr

/-! ## The visits of a round -/

variable {after : PoolEntry rtc} {keys : List K}

section
variable {now : Instant} {id : K} {addr : SocketAddr}

theorem lookup_visit_ne (round : Round rtc K) {other : K} (differs : other ≠ id) :
    (visit now round id).thread.entries.lookup other = round.thread.entries.lookup other := by
  cases stored : round.thread.entries.lookup id with
  | none => rw [visit_none stored]
  | some entry =>
    obtain ⟨left, visits⟩ := visit_eq now stored
    rw [visits.entries, AList.lookup_insert_ne differs]

theorem lookup_visit {round : Round rtc K} (stored : (visit now round id).thread.entries.lookup id = some after) :
    ∃ entry, round.thread.entries.lookup id = some entry ∧ Visited now entry after := by
  cases before : round.thread.entries.lookup id with
  | none =>
    rw [visit_none before, before] at stored
    cases stored
  | some entry =>
    obtain ⟨left, visits⟩ := visit_eq now before
    rw [visits.entries, AList.lookup_insert] at stored
    cases stored
    exact ⟨entry, rfl, visits.session⟩

theorem owner_visit (round : Round rtc K) (id : K) (addr : SocketAddr) :
    (visit now round id).thread.router.byAddr.lookup addr =
      (round.thread.router.byAddr.lookup addr).or (if round.thread.selects now addr id then some id else none) := by
  cases stored : round.thread.entries.lookup id with
  | none =>
    rw [visit_none stored]
    simp [selects, stored]
  | some entry =>
    obtain ⟨left, visits⟩ := visit_eq now stored
    rw [visits.owner]
    simp [selects, stored]

theorem failed_visit (round : Round rtc K) (id other : K) :
    other ∈ (visit now round id).failed ↔ other ∈ round.failed ∨ other = id ∧ round.thread.fails now id = true := by
  cases stored : round.thread.entries.lookup id with
  | none => simp [visit_none stored, fails, stored]
  | some entry =>
    obtain ⟨left, visits⟩ := visit_eq now stored
    rw [visits.failed]
    simp [fails, stored]

theorem selects_congr {before after : PoolThread rtc K} (same : after.entries.lookup id = before.entries.lookup id) :
    after.selects now addr id = before.selects now addr id := by
  unfold selects
  rw [same]

theorem lookup_visit_later (round : Round rtc K) {first other : K} (apart : first ∉ keys) (member : other ∈ keys) :
    (visit now round first).thread.entries.lookup other = round.thread.entries.lookup other := by
  have differs : other ≠ first := fun same => apart (same ▸ member)
  exact lookup_visit_ne round differs

theorem lookup_visits_ne (keys : List K) (round : Round rtc K) {other : K} (apart : other ∉ keys) :
    (keys.foldl (visit now) round).thread.entries.lookup other = round.thread.entries.lookup other := by
  induction keys generalizing round with
  | nil => rfl
  | cons id rest ih =>
    obtain ⟨differs, apart⟩ := not_or.mp (List.mem_cons.not.mp apart)
    rw [List.foldl_cons, ih _ apart, lookup_visit_ne round differs]

theorem lookup_visits (distinct : keys.Nodup) {round : Round rtc K} (member : id ∈ keys)
    (stored : (keys.foldl (visit now) round).thread.entries.lookup id = some after) :
    ∃ entry, round.thread.entries.lookup id = some entry ∧ Visited now entry after := by
  induction keys generalizing round with
  | nil => cases member
  | cons first rest ih =>
    obtain ⟨apart, distinct⟩ := List.nodup_cons.mp distinct
    rw [List.foldl_cons] at stored
    rcases List.mem_cons.mp member with rfl | later
    · rw [lookup_visits_ne rest _ apart] at stored
      exact lookup_visit stored
    · obtain ⟨entry, before, visited⟩ := ih distinct later stored
      rw [lookup_visit_later round apart later] at before
      exact ⟨entry, before, visited⟩

/-- An address without an owner goes to the first visited session that newly selects it. -/
theorem owner_visits (distinct : keys.Nodup) {round : Round rtc K} {addr : SocketAddr} {chosen : K → Bool}
    (agrees : ∀ id ∈ keys, round.thread.selects now addr id = chosen id) :
    (keys.foldl (visit now) round).thread.router.byAddr.lookup addr =
      (round.thread.router.byAddr.lookup addr).or (keys.find? chosen) := by
  induction keys generalizing round with
  | nil => simp
  | cons id rest ih =>
    obtain ⟨apart, distinct⟩ := List.nodup_cons.mp distinct
    obtain ⟨first, agrees⟩ := List.forall_mem_cons.mp agrees
    have later : ∀ other ∈ rest, (visit now round id).thread.selects now addr other = chosen other := by
      intro other member
      rw [selects_congr (lookup_visit_later round apart member), agrees other member]
    rw [List.foldl_cons, ih distinct later, owner_visit, first, Option.or_assoc, List.find?_cons]
    cases chosen id <;> simp

theorem failed_visits (distinct : keys.Nodup) {round : Round rtc K} {failing : K → Bool}
    (agrees : ∀ id ∈ keys, round.thread.fails now id = failing id) (other : K) :
    other ∈ (keys.foldl (visit now) round).failed ↔ other ∈ round.failed ∨ other ∈ keys ∧ failing other = true := by
  induction keys generalizing round with
  | nil => simp
  | cons id rest ih =>
    obtain ⟨apart, distinct⟩ := List.nodup_cons.mp distinct
    obtain ⟨first, agrees⟩ := List.forall_mem_cons.mp agrees
    have later : ∀ other ∈ rest, (visit now round id).thread.fails now other = failing other := by
      intro other member
      unfold fails
      rw [lookup_visit_later round apart member]
      exact agrees other member
    rw [List.foldl_cons, ih distinct later, failed_visit, first, List.mem_cons, or_assoc]
    refine or_congr_right ?_
    by_cases same : other = id <;> simp [same]

/-! ## Owners are in the pool -/

/-- Whoever owns an address is in the pool and has recorded it. -/
def Owned (thread : PoolThread rtc K) : Prop :=
  ∀ addr id, thread.router.byAddr.lookup addr = some id →
    ∃ entry, thread.entries.lookup id = some entry ∧ entry.remoteAddr = some addr

theorem lookup_remove (thread : PoolThread rtc K) (id other : K) :
    (thread.remove id).entries.lookup other = if other = id then none else thread.entries.lookup other := by
  unfold remove
  by_cases same : other = id
  · subst same
    rw [if_pos rfl]
    split
    · assumption
    · exact AList.lookup_erase ..
  · rw [if_neg same]
    split
    · rfl
    · exact AList.lookup_erase_ne same

theorem Owned.owner_remove (owned : Owned thread) (id : K) (addr : SocketAddr) :
    (thread.remove id).router.byAddr.lookup addr =
      if thread.router.byAddr.lookup addr = some id then none else thread.router.byAddr.lookup addr := by
  by_cases owner : thread.router.byAddr.lookup addr = some id
  · obtain ⟨entry, stored, recorded⟩ := owned addr id owner
    simp only [remove, stored]
    rw [Router.lookup_release, if_pos ⟨recorded, owner⟩, if_pos owner]
  · rw [if_neg owner]
    unfold remove
    split
    · rfl
    · rw [Router.lookup_release, if_neg fun both => owner both.2]

theorem Owned.remove (owned : Owned thread) (id : K) : Owned (thread.remove id) := by
  intro addr owner owns
  rw [owned.owner_remove] at owns
  split at owns
  · cases owns
  · rename_i other
    obtain ⟨entry, stored, recorded⟩ := owned addr owner owns
    have differs : owner ≠ id := fun same => other (same ▸ owns)
    exact ⟨entry, by rw [lookup_remove, if_neg differs, stored], recorded⟩

theorem Owned.handle (owned : Owned thread) (id : K) (input : ConnectionInput) : Owned (thread.handle id input) := by
  unfold PoolThread.handle
  split
  · exact owned
  · rename_i entry stored
    intro addr owner owns
    obtain ⟨found, held, recorded⟩ := owned addr owner owns
    by_cases same : owner = id
    · subst same
      cases stored.symm.trans held
      exact ⟨_, AList.lookup_insert .., recorded⟩
    · exact ⟨found, (AList.lookup_insert_ne same).trans held, recorded⟩

theorem Owned.add (owned : Owned thread) (fresh : id ∉ thread.entries) (connection : Connection rtc) (localUfrag : String)
    (now : Instant) : Owned (command now thread (.add id connection localUfrag)) := by
  intro addr owner owns
  obtain ⟨found, held, recorded⟩ := owned addr owner owns
  have differs : owner ≠ id := fun same => fresh (same ▸ Table.mem_of_lookup held)
  exact ⟨found, (AList.lookup_insert_ne differs).trans held, recorded⟩

theorem Owned.visit {round : Round rtc K} (owned : Owned round.thread) (now : Instant) (id : K) :
    Owned (visit now round id).thread := by
  cases stored : round.thread.entries.lookup id with
  | none => rwa [visit_none stored]
  | some entry =>
    obtain ⟨left, visits⟩ := visit_eq now stored
    intro addr owner owns
    rw [owner_visit] at owns
    rw [visits.entries]
    rcases Option.or_eq_some_iff.mp owns with before | ⟨-, newly⟩
    · obtain ⟨found, held, recorded⟩ := owned addr owner before
      by_cases same : owner = id
      · subst same
        cases stored.symm.trans held
        exact ⟨left, AList.lookup_insert .., by rw [visits.session.recorded, recorded, Option.some_or]⟩
      · exact ⟨found, (AList.lookup_insert_ne same).trans held, recorded⟩
    · split at newly
      · rename_i selected
        cases newly
        obtain ⟨none, reported⟩ := (selects_iff stored).mp selected
        exact ⟨left, AList.lookup_insert .., by rw [visits.session.recorded, none, Option.none_or, reported]⟩
      · cases newly

/-! ## The end of a round -/

theorem Owned.visits {round : Round rtc K} (owned : Owned round.thread) (now : Instant) (keys : List K) :
    Owned (keys.foldl (PoolThread.visit now) round).thread :=
  List.foldlRecOn (motive := fun round : Round rtc K => Owned round.thread) keys _ owned
    fun _ kept id _ => Owned.visit kept now id

/-- The sessions that failed leave, and with them their addresses. -/
theorem fails_eq (failed : List K) {round : Round rtc K} (owned : Owned round.thread) :
    Owned (failed.foldl fail round).thread ∧
      (∀ id, (failed.foldl fail round).thread.entries.lookup id =
        if id ∈ failed then none else round.thread.entries.lookup id) ∧
      ∀ addr id, (failed.foldl fail round).thread.router.byAddr.lookup addr = some id ↔
        round.thread.router.byAddr.lookup addr = some id ∧ id ∉ failed := by
  induction failed generalizing round with
  | nil => simp [owned]
  | cons first rest ih =>
    have next : Owned (fail round first).thread := owned.remove first
    obtain ⟨kept, entries, owners⟩ := ih next
    refine ⟨kept, fun id => ?_, fun addr id => ?_⟩
    · rw [List.foldl_cons, entries]
      show (if id ∈ rest then none else (round.thread.remove first).entries.lookup id) = _
      rw [lookup_remove]
      by_cases later : id ∈ rest
      · simp [later]
      · by_cases same : id = first <;> simp [later, same]
    · rw [List.foldl_cons, owners]
      show (round.thread.remove first).router.byAddr.lookup addr = some id ∧ id ∉ rest ↔ _
      rw [owned.owner_remove]
      by_cases owner : round.thread.router.byAddr.lookup addr = some first
      · simp only [owner, if_true, Option.some.injEq]
        constructor
        · rintro ⟨impossible, -⟩
          cases impossible
        · rintro ⟨rfl, apart⟩
          exact absurd List.mem_cons_self apart
      · rw [if_neg owner, List.mem_cons, not_or]
        constructor
        · rintro ⟨owns, apart⟩
          exact ⟨owns, fun same => owner (same ▸ owns), apart⟩
        · rintro ⟨owns, -, apart⟩
          exact ⟨owns, apart⟩

section
variable {order : Visit K}

/-- The round once every session was visited. -/
def visitAll (thread : PoolThread rtc K) (now : Instant) (order : Visit K) : Round rtc K :=
  (order.arrange thread.entries.keys).foldl (visit now) ⟨thread, [], []⟩

omit [DecidableEq K] in
theorem nodup_arrange (thread : PoolThread rtc K) (order : Visit K) : (order.arrange thread.entries.keys).Nodup :=
  (order.perm _).nodup_iff.mpr thread.entries.keys_nodup

theorem Owned.visitAll (owned : Owned thread) (now : Instant) (order : Visit K) :
    Owned (thread.visitAll now order).thread :=
  Owned.visits owned now _

theorem lookup_visitAll (stored : (thread.visitAll now order).thread.entries.lookup id = some after) :
    ∃ entry, thread.entries.lookup id = some entry ∧ Visited now entry after := by
  by_cases member : id ∈ order.arrange thread.entries.keys
  · exact lookup_visits (nodup_arrange thread order) member stored
  · rw [visitAll, lookup_visits_ne _ _ member] at stored
    exact absurd (order.mem_arrange.mpr (AList.mem_keys.mp (Table.mem_of_lookup stored))) member

theorem owner_visitAll (addr : SocketAddr) : (thread.visitAll now order).thread.router.byAddr.lookup addr =
    (thread.router.byAddr.lookup addr).or (thread.claimant now order addr) :=
  owner_visits (nodup_arrange thread order) fun _ _ => rfl

theorem failed_visitAll (id : K) : id ∈ (thread.visitAll now order).failed ↔ thread.fails now id = true := by
  refine (failed_visits (nodup_arrange thread order) (fun _ _ => rfl) id).trans ?_
  rw [order.mem_arrange, ← AList.mem_keys, ← AList.lookup_isSome]
  cases stored : thread.entries.lookup id <;> simp [fails, stored]

theorem Owned.round (owned : Owned thread) (now : Instant) (order : Visit K) : Owned (thread.round now order).1 :=
  (fails_eq _ (owned.visitAll now order)).1

/-- After a round a session is as its visit left it. -/
theorem Owned.lookup_round (owned : Owned thread) (stored : (thread.round now order).1.entries.lookup id = some after) :
    ∃ entry, thread.entries.lookup id = some entry ∧ Visited now entry after := by
  have stored := (fails_eq (thread.visitAll now order).failed (owned.visitAll now order)).2.1 id ▸ stored
  split at stored
  · cases stored
  · exact lookup_visitAll stored

/-- The sessions a round leaves in the pool. -/
theorem Owned.drives_round (owned : Owned thread) (id : K) :
    (thread.round now order).1.drives id = (thread.drives id && !thread.fails now id) := by
  have left := (fails_eq (thread.visitAll now order).failed (owned.visitAll now order)).2.1 id
  have visited : (thread.visitAll now order).thread.drives id = thread.drives id := drives_visits id now _ _
  unfold drives at visited ⊢
  rw [← visited, PoolThread.round]
  show (AList.lookup id ((thread.visitAll now order).failed.foldl fail (thread.visitAll now order)).thread.entries).isSome = _
  simp only [left, failed_visitAll]
  cases thread.fails now id <;> simp

theorem Owned.reports_round (owned : Owned thread) :
    (thread.round now order).1.Reports id addr ↔ thread.WillReport now id addr := by
  have driven : (thread.round now order).1.drives id = (thread.drives id && !thread.fails now id) := owned.drives_round id
  constructor
  · rintro ⟨after, stored, reported⟩
    obtain ⟨entry, held, visited⟩ := owned.lookup_round stored
    simp only [drives, stored, held, Option.isSome_some, Bool.true_and] at driven
    exact ⟨by simpa using driven.symm, entry, held, visited.remote ▸ reported⟩
  · rintro ⟨unfailed, entry, held, reported⟩
    simp only [drives, held, unfailed, Option.isSome_some, Bool.true_and, Bool.not_false] at driven
    obtain ⟨after, stored⟩ := Option.isSome_iff_exists.mp driven
    obtain ⟨old, same, visited⟩ := owned.lookup_round stored
    cases held.symm.trans same
    exact ⟨after, stored, visited.remote.trans reported⟩

/-- After a round an address belongs to whom it belonged to, else to the first that newly selected it, if
that session does not fail. -/
theorem Owned.owner_round (owned : Owned thread) (addr : SocketAddr) (id : K) :
    (thread.round now order).1.router.byAddr.lookup addr = some id ↔
      (thread.router.byAddr.lookup addr).or (thread.claimant now order addr) = some id ∧ thread.fails now id = false := by
  have owners := (fails_eq (thread.visitAll now order).failed (owned.visitAll now order)).2.2 addr id
  rw [owner_visitAll, failed_visitAll, Bool.not_eq_true] at owners
  exact owners

end

/-! ## Distinct sessions -/

def addedId : PoolCommand K (Connection rtc) → Option K
  | .add id _ _ => some id
  | _ => none

/-- The ids under which sessions are added, in order. -/
def addedIds (turns : List (PoolTurn rtc K)) : List K := turns.flatMap fun turn => turn.commands.filterMap addedId

/-- What the inputs before a round can do: sessions keep the addresses they recorded, and addresses are only
given up. -/
structure Before (added : List K) (before after : PoolThread rtc K) : Prop where
  owned : Owned after
  keys : ∀ id ∈ after.entries, id ∈ before.entries ∨ id ∈ added
  recorded : ∀ id entry, id ∉ added → after.entries.lookup id = some entry →
    ∃ old, before.entries.lookup id = some old ∧ entry.remoteAddr = old.remoteAddr
  owners : ∀ addr, before.router.byAddr.lookup addr = none → after.router.byAddr.lookup addr = none

theorem Before.refl (owned : Owned thread) : Before [] thread thread :=
  ⟨owned, fun _ => .inl, fun _ entry _ stored => ⟨entry, stored, rfl⟩, fun _ => id⟩

theorem Before.trans {added later : List K} {first second third : PoolThread rtc K} (left : Before added first second)
    (right : Before later second third) : Before (added ++ later) first third where
  owned := right.owned
  keys id member := by
    rcases right.keys id member with old | new
    · exact (left.keys id old).imp_right (List.mem_append_left _)
    · exact .inr (List.mem_append_right _ new)
  recorded id entry apart stored := by
    obtain ⟨apart, apart'⟩ := not_or.mp (List.mem_append.not.mp apart)
    obtain ⟨middle, held, same⟩ := right.recorded id entry apart' stored
    obtain ⟨old, before, same'⟩ := left.recorded id middle apart held
    exact ⟨old, before, same.trans same'⟩
  owners addr free := right.owners addr (left.owners addr free)

theorem before_handle (owned : Owned thread) (id : K) (input : ConnectionInput) :
    Before [] thread (thread.handle id input) := by
  refine ⟨owned.handle id input, fun other member => .inl ?_, fun other entry _ stored => ?_, fun addr free => ?_⟩
  · revert member
    unfold handle
    split
    · exact fun member => member
    · rename_i stored
      exact (Table.mem_insert_of_mem (Table.mem_of_lookup stored) _).mp
  · revert stored
    unfold handle
    split
    · exact fun stored => ⟨entry, stored, rfl⟩
    · rename_i old held
      intro stored
      by_cases same : other = id
      · subst same
        rw [AList.lookup_insert] at stored
        cases stored
        exact ⟨old, held, rfl⟩
      · rw [AList.lookup_insert_ne same] at stored
        exact ⟨entry, stored, rfl⟩
  · unfold handle
    split <;> exact free

theorem before_remove (owned : Owned thread) (id : K) : Before [] thread (thread.remove id) := by
  refine ⟨owned.remove id, fun other member => .inl ?_, fun other entry _ stored => ?_, fun addr free => ?_⟩
  · rw [← AList.lookup_isSome, lookup_remove] at member
    split at member
    · cases member
    · exact AList.lookup_isSome.mp member
  · rw [lookup_remove] at stored
    split at stored
    · cases stored
    · exact ⟨entry, stored, rfl⟩
  · rw [owned.owner_remove, free]
    simp

theorem before_add (owned : Owned thread) {id : K} (fresh : id ∉ thread.entries) (connection : Connection rtc)
    (localUfrag : String) (now : Instant) : Before [id] thread (command now thread (.add id connection localUfrag)) where
  owned := owned.add fresh connection localUfrag now
  keys other member := by
    rcases (AList.mem_insert _).mp member with rfl | old
    · exact .inr (List.mem_singleton.mpr rfl)
    · exact .inl old
  recorded other entry apart stored := by
    have differs : other ≠ id := fun same => apart (List.mem_singleton.mpr same)
    exact ⟨entry, (AList.lookup_insert_ne differs).symm.trans stored, rfl⟩
  owners _ free := free

theorem before_command (owned : Owned thread) {input : PoolCommand K (Connection rtc)}
    (fresh : ∀ id, addedId input = some id → id ∉ thread.entries) (now : Instant) :
    Before (addedId input).toList thread (command now thread input) := by
  cases input with
  | add id connection localUfrag => exact before_add owned (fresh id rfl) connection localUfrag now
  | remove id => exact before_remove owned id
  | signal id signal => exact before_handle owned id _
  | send id channel data => exact before_handle owned id _

theorem before_commands (inputs : List (PoolCommand K (Connection rtc))) (owned : Owned thread)
    (distinct : (inputs.filterMap addedId).Nodup) (apart : ∀ id ∈ thread.entries, id ∉ inputs.filterMap addedId)
    (now : Instant) : Before (inputs.filterMap addedId) thread (inputs.foldl (command now) thread) := by
  induction inputs generalizing thread with
  | nil => exact .refl owned
  | cons input rest ih =>
    have split : (input :: rest).filterMap addedId = (addedId input).toList ++ rest.filterMap addedId := by
      cases named : addedId input <;> simp [named]
    rw [split] at distinct apart ⊢
    obtain ⟨-, later, disjoint⟩ := List.nodup_append.mp distinct
    have first : Before (addedId input).toList thread (command now thread input) :=
      before_command owned (fun id named member => apart id member (by simp [named])) now
    refine first.trans (ih first.owned later fun id member again => ?_)
    rcases first.keys id member with old | new
    · exact apart id old (List.mem_append_right _ again)
    · exact disjoint id new id again rfl

theorem before_receive (owned : Owned thread) (stunUsername : Bytes → Option String) (source : SocketAddr)
    (datagram : Bytes) (now : Instant) : Before [] thread (thread.receive stunUsername source datagram now) := by
  unfold receive
  exact List.foldlRecOn (motive := fun after => Before [] thread after) _ _ (.refl owned)
    fun _ kept id _ => kept.trans (before_handle kept.owned id _)

theorem before_beforeRound (stunUsername : Bytes → Option String) (turn : PoolTurn rtc K) (owned : Owned thread)
    (distinct : (addedIds [turn]).Nodup) (apart : ∀ id ∈ thread.entries, id ∉ addedIds [turn]) :
    Before (addedIds [turn]) thread (thread.beforeRound stunUsername turn) := by
  have added : addedIds [turn] = turn.commands.filterMap addedId := List.flatMap_singleton ..
  rw [added] at distinct apart ⊢
  have packet : Before [] thread (match turn.packet with
      | none => thread
      | some (source, datagram) => thread.receive stunUsername source datagram turn.received) := by
    split
    · exact .refl owned
    · exact before_receive owned stunUsername _ _ _
  refine packet.trans (before_commands turn.commands packet.owned distinct (fun id member => ?_) turn.commanded)
  exact apart id ((packet.keys id member).resolve_right List.not_mem_nil)

/-! ## Runs -/

/-- What holds between two iterations: owners are in the pool, and a session that reports an address has
recorded one. -/
structure Rested (thread : PoolThread rtc K) : Prop where
  owned : Owned thread
  recorded : ∀ id entry, thread.entries.lookup id = some entry → entry.connection.remoteAddr.isSome → entry.remoteAddr.isSome

theorem rested_new : Rested (new : PoolThread rtc K) where
  owned addr id owns := by
    rw [new, Router.empty, AList.lookup_empty] at owns
    cases owns
  recorded id entry stored := by
    rw [new, AList.lookup_empty] at stored
    cases stored

theorem Rested.iterate (rested : Rested thread) (stunUsername : Bytes → Option String) (turn : PoolTurn rtc K)
    (distinct : (addedIds [turn]).Nodup) (apart : ∀ id ∈ thread.entries, id ∉ addedIds [turn]) :
    Rested (thread.iterate stunUsername turn).1 ∧
      ∀ id ∈ (thread.iterate stunUsername turn).1.entries, id ∈ thread.entries ∨ id ∈ addedIds [turn] := by
  have before := before_beforeRound stunUsername turn rested.owned distinct apart
  refine ⟨⟨before.owned.round _ _, fun id entry stored reports => ?_⟩, fun id member => ?_⟩
  · obtain ⟨old, -, visited⟩ := before.owned.lookup_round stored
    rw [visited.remote] at reports
    rw [visited.recorded]
    simp [reports]
  · obtain ⟨entry, stored⟩ := Option.isSome_iff_exists.mp (AList.lookup_isSome.mpr member)
    obtain ⟨old, held, -⟩ := before.owned.lookup_round stored
    exact before.keys id (Table.mem_of_lookup held)

omit [DecidableEq K] in
theorem addedIds_cons (turn : PoolTurn rtc K) (rest : List (PoolTurn rtc K)) :
    addedIds (turn :: rest) = addedIds [turn] ++ addedIds rest := by
  simp [addedIds]

omit [DecidableEq K] in
theorem addedIds_append (turns later : List (PoolTurn rtc K)) : addedIds (turns ++ later) = addedIds turns ++ addedIds later :=
  List.flatMap_append ..

theorem Rested.turns (rested : Rested thread) (stunUsername : Bytes → Option String) (turns : List (PoolTurn rtc K))
    (distinct : (addedIds turns).Nodup) (apart : ∀ id ∈ thread.entries, id ∉ addedIds turns) :
    Rested (run (PoolThread.iterate stunUsername) thread turns).1 ∧
      ∀ id ∈ (run (PoolThread.iterate stunUsername) thread turns).1.entries, id ∈ thread.entries ∨ id ∈ addedIds turns := by
  induction turns generalizing thread with
  | nil => exact ⟨rested, fun _ => .inl⟩
  | cons turn rest ih =>
    rw [addedIds_cons] at distinct apart ⊢
    obtain ⟨now, later, disjoint⟩ := List.nodup_append.mp distinct
    obtain ⟨next, keys⟩ := rested.iterate stunUsername turn now fun id member again =>
      apart id member (List.mem_append_left _ again)
    have fresh : ∀ id ∈ (thread.iterate stunUsername turn).1.entries, id ∉ addedIds rest := by
      intro id member again
      rcases keys id member with old | new
      · exact apart id old (List.mem_append_right _ again)
      · exact disjoint id new id again rfl
    obtain ⟨last, left⟩ := ih next later fresh
    refine ⟨last, fun id member => ?_⟩
    rcases left id member with old | new
    · exact (keys id old).imp_right (List.mem_append_left _)
    · exact .inr (List.mem_append_right _ new)

/-- The address belongs to a session that reports it and gets the datagrams from there. -/
def Served (stunUsername : Bytes → Option String) (thread : PoolThread rtc K) (addr : SocketAddr) : Prop :=
  ∃ id, thread.Reports id addr ∧ thread.router.byAddr.lookup addr = some id ∧
    ∀ datagram, thread.router.route rtc.isStunMessage (localUfrag rtc.isStunMessage stunUsername) addr datagram = [id]

/-- An address that no session in the pool owns passes on in the next iteration, unless nobody will report it any
more, exactly if the first session to newly select it in that iteration does not fail in it. A session that
reported an address before is never that session. -/
theorem freed_address_passes_iff (stunUsername : Bytes → Option String) (turns : List (PoolTurn rtc K))
    (turn : PoolTurn rtc K) (distinct : (addedIds (turns ++ [turn])).Nodup) (addr : SocketAddr)
    (free : ∀ id ∈ (run (iterate stunUsername) new turns).1.entries,
      (run (iterate stunUsername) new turns).1.router.byAddr.lookup addr ≠ some id) :
    let thread := (run (iterate stunUsername) new turns).1
    let next := (thread.iterate stunUsername turn).1
    let ready := thread.beforeRound stunUsername turn
    (((∃ id, next.Reports id addr) → next.Served stunUsername addr) ↔
      (∀ id, ¬ready.WillReport turn.now id addr) ∨
        ∃ id, ready.claimant turn.now turn.order addr = some id ∧ ready.fails turn.now id = false) ∧
    ∀ id other, thread.Reports id other → ready.selects turn.now addr id = false := by
  intro thread next ready
  rw [addedIds_append] at distinct
  obtain ⟨earlier, now, disjoint⟩ := List.nodup_append.mp distinct
  obtain ⟨rested, keys⟩ := rested_new.turns stunUsername turns earlier fun id member => absurd member (AList.notMem_empty id)
  have apart : ∀ id ∈ thread.entries, id ∉ addedIds [turn] := by
    intro id member again
    rcases keys id member with old | new
    · exact AList.notMem_empty id old
    · exact disjoint id new id again rfl
  have before := before_beforeRound stunUsername turn rested.owned now apart
  have unowned : thread.router.byAddr.lookup addr = none := by
    by_contra owner
    obtain ⟨id, owns⟩ := Option.ne_none_iff_exists'.mp owner
    obtain ⟨entry, stored, -⟩ := rested.owned addr id owns
    exact free id (Table.mem_of_lookup stored) owns
  have owner : ∀ id, next.router.byAddr.lookup addr = some id ↔
      ready.claimant turn.now turn.order addr = some id ∧ ready.fails turn.now id = false := by
    intro id
    have round : next.router.byAddr.lookup addr = some id ↔ _ := before.owned.owner_round addr id
    rwa [before.owners addr unowned, Option.none_or] at round
  have reports : ∀ id, next.Reports id addr ↔ ready.WillReport turn.now id addr := fun _ => before.owned.reports_round
  refine ⟨⟨fun passes => ?_, ?_⟩, ?_⟩
  · by_cases reported : ∃ id, next.Reports id addr
    · obtain ⟨id, -, owns, -⟩ := passes reported
      exact .inr ⟨id, (owner id).mp owns⟩
    · exact .inl fun id will => reported ⟨id, (reports id).mpr will⟩
  · rintro (silent | ⟨id, first, unfailed⟩) ⟨other, reported⟩
    · exact absurd ((reports other).mp reported) (silent other)
    · have owns := (owner id).mpr ⟨first, unfailed⟩
      have selected : ready.selects turn.now addr id = true := List.find?_some first
      refine ⟨id, (reports id).mpr ⟨unfailed, ?_⟩, owns, fun datagram => ?_⟩
      · unfold selects at selected
        split at selected
        · cases selected
        · rename_i entry held
          exact ⟨entry, held, by simp_all⟩
      · rw [Router.route, owns]
  · intro id other reports
    obtain ⟨entry, stored, reported⟩ := reports
    have recorded := rested.recorded id entry stored (by rw [reported]; rfl)
    unfold selects
    split
    · rfl
    · rename_i kept held
      obtain ⟨old, same, equal⟩ := before.recorded id kept (apart id (Table.mem_of_lookup stored)) held
      cases stored.symm.trans same
      rw [equal, Option.isNone_eq_false_iff.mpr recorded, Bool.false_and]

end

/-! ## Two sessions on one address -/

def sharedCrates : WebrtcCrates where
  Candidate := Unit
  unmarshal _ := .error "no description"
  unmarshalCandidate _ := .error "no candidate"

-- the stacks whose path is up from the start
def sharedRtc : Rtc sharedCrates.Candidate := Session.quietRtc

def sharedAddr : SocketAddr := .v4 0x7f000001 7

def quietConnection (connectionId : UInt64) : Connection sharedRtc :=
  ⟨.new (.v4 0x7f000001 8) false () (), connectionId, "7", none⟩

def quietTurn (commands : List (PoolCommand Nat (Connection sharedRtc))) : PoolTurn sharedRtc Nat :=
  ⟨none, 0, commands, 0, 0, .inOrder⟩

theorem reports_iff {id : K} {addr : SocketAddr} :
    thread.Reports id addr ↔ (thread.entries.lookup id).bind (·.connection.remoteAddr) = some addr :=
  Option.bind_eq_some_iff.symm

/-- The owner of an address leaves a pool in which another session reports it, and the next session to select
the address gets it. -/
theorem next_session_served :
    let turns := [quietTurn [.add 1 (quietConnection 1) "a", .add 2 (quietConnection 2) "b"], quietTurn [.remove 2]]
    let thread := (run (iterate fun _ => none) (new : PoolThread sharedRtc Nat) turns).1
    let next := (thread.iterate (fun _ => none) (quietTurn [.add 3 (quietConnection 3) "c"])).1
    thread.Reports 1 sharedAddr ∧ next.Reports 3 sharedAddr ∧ next.Served (fun _ => none) sharedAddr := by
  intro turns thread next
  have unowned : thread.router.byAddr.lookup sharedAddr = none := by decide +kernel
  have reports : next.Reports 3 sharedAddr := reports_iff.mpr (by decide +kernel)
  have passes := freed_address_passes_iff (fun _ => none) turns (quietTurn [.add 3 (quietConnection 3) "c"]) (by decide)
    sharedAddr fun id _ owns => by
      have none : thread.router.byAddr.lookup sharedAddr = some id := owns
      rw [unowned] at none
      cases none
  refine ⟨reports_iff.mpr (by decide +kernel), reports, passes.1.mpr (.inr ⟨3, ?_, ?_⟩) ⟨3, reports⟩⟩
  · decide +kernel
  · decide +kernel

/-- Two sessions select one address, the second visited does not own it, and once the owner is removed
nobody ever does: the other session goes on reporting the address and gets no datagram from it. -/
theorem other_session_starved :
    let turns := [quietTurn [.add 1 (quietConnection 1) "a", .add 2 (quietConnection 2) "b"], quietTurn [.remove 2]]
    let thread := (run (iterate fun _ => none) (new : PoolThread sharedRtc Nat) turns).1
    let next := (thread.iterate (fun _ => none) (quietTurn [])).1
    (addedIds (turns ++ [quietTurn []])).Nodup ∧
      thread.Reports 1 sharedAddr ∧ thread.router.byAddr.lookup sharedAddr = none ∧
      next.Reports 1 sharedAddr ∧ ¬next.Served (fun _ => none) sharedAddr := by
  intro turns thread next
  have unowned : next.router.byAddr.lookup sharedAddr = none := by decide +kernel
  refine ⟨by decide, reports_iff.mpr (by decide +kernel), by decide +kernel, reports_iff.mpr (by decide +kernel), ?_⟩
  rintro ⟨id, -, owns, -⟩
  rw [unowned] at owns
  cases owns

end PoolThread

end Nethernet
