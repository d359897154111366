import Nethernet.Admission
import Nethernet.Router
import Nethernet.Session.Connection

/-! The thread that drives the sessions of a client or server: it routes the
datagrams of one socket, carries out commands, and after each round reports
what its sessions put out. -/

set_option autoImplicit false

namespace Nethernet
open Foundation

/-! ## The thread -/

def rttReportInterval : Duration := .fromSecs 1

section
variable {crates : WebrtcCrates} (rtc : Rtc crates.Candidate)

structure PoolEntry where
  connection : Connection rtc
  localUfrag : String
  remoteAddr : Option SocketAddr
  wait : Instant
  reportedRtt : Option Duration
  rttReportedAt : Option Instant

structure PoolThread (K : Type) where
  entries : Table K (PoolEntry rtc)
  router : Router K
  -- the datagrams given to the socket
  sent : List (Bytes × SocketAddr)

end

variable (now : Instant) {ids : Option (UInt64 × String)}

namespace PoolThread
variable {crates : WebrtcCrates} {rtc : Rtc crates.Candidate} {K : Type} [DecidableEq K]

def new : PoolThread rtc K := ⟨∅, .empty, []⟩

/-- What an input does to one entry; an error is not looked at. -/
def handle (thread : PoolThread rtc K) (id : K) (input : ConnectionInput) : PoolThread rtc K :=
  match thread.entries.lookup id with
  | none => thread
  | some entry =>
    { thread with
      entries := thread.entries.insert id { entry with connection := (entry.connection.handle input).1 } }

-- `stunUsername` reads the USERNAME of a binding request; the local half is before the colon
def localUfrag (isStun : Bytes → Bool) (stunUsername : Bytes → Option String) (datagram : Bytes) : Option String := do
  if isStun datagram then
    let username ← stunUsername datagram
    let halves ← splitOnce ':' username.toList
    return String.ofList halves.1
  else none

def receive (stunUsername : Bytes → Option String) (thread : PoolThread rtc K) (source : SocketAddr)
    (datagram : Bytes) (now : Instant) : PoolThread rtc K :=
  let ids := thread.router.route rtc.isStunMessage (localUfrag rtc.isStunMessage stunUsername) source datagram
  ids.foldl (fun thread id => thread.handle id (.packet datagram source now)) thread

def remove (thread : PoolThread rtc K) (id : K) : PoolThread rtc K :=
  match thread.entries.lookup id with
  | none => thread
  | some entry =>
    { thread with
      entries := thread.entries.erase id
      router := thread.router.release id entry.localUfrag entry.remoteAddr }

def command (now : Instant) (thread : PoolThread rtc K) (command : PoolCommand K (Connection rtc)) :
    PoolThread rtc K :=
  match command with
  | .add id connection localUfrag =>
    { thread with
      router := thread.router.registerUfrag localUfrag id
      entries := thread.entries.insert id ⟨connection, localUfrag, none, now, none, none⟩ }
  | .remove id => thread.remove id
  | .signal id signal => thread.handle id (.signal signal now)
  | .send id channel data => thread.handle id (.send channel data now)

/-! ## One round over the sessions -/

/-- The round so far: the reports it made and the sessions it saw fail. -/
structure Round (rtc : Rtc crates.Candidate) (K : Type) where
  thread : PoolThread rtc K
  events : List (K × ConnectionEvent)
  failed : List K

-- one output of the session `entry`, which is not yet back in the table
def report (now : Instant) (id : K) (state : Round rtc K × PoolEntry rtc) (output : SessionOutput) :
    Round rtc K × PoolEntry rtc :=
  let (round, entry) := state
  match output with
  | .send data addr =>
    let router := if entry.remoteAddr.isNone then round.thread.router.noteSent addr id else round.thread.router
    ({ round with thread := { round.thread with router := router, sent := round.thread.sent ++ [(data, addr)] } },
      entry)
  | .event .ready => ({ round with events := round.events ++ [(id, .ready entry.connection.remoteAddr)] }, entry)
  | .event .failed => ({ round with failed := round.failed ++ [id] }, entry)
  | .message channel data => ({ round with events := round.events ++ [(id, .message channel data)] }, entry)
  | .wait duration => (round, { entry with wait := now + duration })

def claim (id : K) (state : Round rtc K × PoolEntry rtc) : Round rtc K × PoolEntry rtc :=
  let (round, entry) := state
  match entry.remoteAddr, entry.connection.remoteAddr with
  | none, some addr =>
    ({ round with thread := { round.thread with router := round.thread.router.claimAddr addr id } },
      { entry with remoteAddr := some addr })
  | _, _ => state

-- a changed round-trip time is reported at most once an interval
def reportRtt (now : Instant) (id : K) (state : Round rtc K × PoolEntry rtc) : Round rtc K × PoolEntry rtc :=
  let (round, entry) := state
  match entry.connection.rtt with
  | none => state
  | some rtt =>
    if entry.reportedRtt ≠ some rtt ∧ (∀ reported ∈ entry.rttReportedAt, rttReportInterval ≤ now.since reported) then
      ({ round with events := round.events ++ [(id, .rtt rtt)] },
        { entry with reportedRtt := some rtt, rttReportedAt := some now })
    else state

def drain (now : Instant) (id : K) (state : Round rtc K × PoolEntry rtc) : Round rtc K × PoolEntry rtc :=
  let (round, entry) := state
  let (connection, outputs) := entry.connection.takeOutputs
  outputs.foldl (report now id) (round, { entry with connection := connection })

def timeOut (now : Instant) (entry : PoolEntry rtc) : PoolEntry rtc :=
  { entry with connection := (entry.connection.handle (.timeout now)).1 }

def visit (now : Instant) (round : Round rtc K) (id : K) : Round rtc K :=
  match round.thread.entries.lookup id with
  | none => round
  | some entry =>
    let (round, entry) := reportRtt now id (drain now id (claim id (round, timeOut now entry)))
    { round with thread := { round.thread with entries := round.thread.entries.insert id entry } }

def fail (round : Round rtc K) (id : K) : Round rtc K :=
  { round with thread := round.thread.remove id, events := round.events ++ [(id, .failed)] }

/-- The last part of the thread's loop, with the reports it makes. -/
def round (thread : PoolThread rtc K) (now : Instant) (order : Visit K) : PoolThread rtc K × List (K × ConnectionEvent) :=
  let visited := (order.arrange thread.entries.keys).foldl (visit now) ⟨thread, [], []⟩
  let failed := visited.failed.foldl fail visited
  (failed.thread, failed.events)

/-! ## The ids of the sessions -/

/-- Every session is bound to the one pair of ids. -/
def Bound (ids : Option (UInt64 × String)) (thread : PoolThread rtc K) : Prop :=
  ∀ id entry, thread.entries.lookup id = some entry → ids = some entry.connection.ids

section
variable {thread : PoolThread rtc K}

theorem Bound.insert (bound : Bound ids thread) {id : K} {entry : PoolEntry rtc}
    (named : ids = some entry.connection.ids) (router : Router K) (sent : List (Bytes × SocketAddr)) :
    Bound ids ⟨thread.entries.insert id entry, router, sent⟩ := by
  intro other found stored
  by_cases same : other = id
  · subst same
    rw [AList.lookup_insert, Option.some.injEq] at stored
    exact stored ▸ named
  · rw [AList.lookup_insert_ne same] at stored
    exact bound other found stored

theorem Bound.handle (bound : Bound ids thread) (id : K) (input : ConnectionInput) :
    Bound ids (thread.handle id input) := by
  unfold PoolThread.handle
  split
  · exact bound
  · rename_i entry stored
    refine bound.insert ?_ _ _
    rw [bound id entry stored, Connection.ids_handle]

theorem Bound.remove (bound : Bound ids thread) (id : K) : Bound ids (thread.remove id) := by
  unfold PoolThread.remove
  split
  · exact bound
  · intro other found stored
    by_cases same : other = id
    · subst same
      rw [AList.lookup_erase] at stored
      cases stored
    · rw [AList.lookup_erase_ne same] at stored
      exact bound other found stored

theorem Bound.receive (bound : Bound ids thread) (stunUsername : Bytes → Option String) (source : SocketAddr)
    (datagram : Bytes) (now : Instant) : Bound ids (thread.receive stunUsername source datagram now) := by
  unfold PoolThread.receive
  exact List.foldlRecOn _ _ bound fun _ kept id _ => Bound.handle kept id _

end

/-! ## What a visit does -/

/-- What a session's outputs change in the round: what they report is no failure, and a failure only sets the
session aside. -/
structure Reported (id : K) (outputs : List SessionOutput) (before after : Round rtc K × PoolEntry rtc) : Prop where
  entries : after.1.thread.entries = before.1.thread.entries
  owners : after.1.thread.router.byAddr = before.1.thread.router.byAddr
  ids : after.2.connection.ids = before.2.connection.ids
  recorded : after.2.remoteAddr = before.2.remoteAddr
  remote : after.2.connection.remoteAddr = before.2.connection.remoteAddr
  events : ∀ event ∈ after.1.events, event ∈ before.1.events ∨ event.2 ≠ .failed
  failed : ∀ other, other ∈ after.1.failed ↔ other ∈ before.1.failed ∨ other = id ∧ .event .failed ∈ outputs

variable (state : Round rtc K × PoolEntry rtc)

section
variable {id : K}

omit [DecidableEq K] in
theorem Reported.trans {first second : List SessionOutput} {a b c : Round rtc K × PoolEntry rtc}
    (left : Reported id first a b) (right : Reported id second b c) : Reported id (first ++ second) a c where
  entries := right.entries.trans left.entries
  owners := right.owners.trans left.owners
  ids := right.ids.trans left.ids
  recorded := right.recorded.trans left.recorded
  remote := right.remote.trans left.remote
  events event member := (right.events event member).elim (left.events event) .inr
  failed other := by
    rw [right.failed, left.failed, List.mem_append, and_or_left, or_assoc]

omit [DecidableEq K] in
theorem mem_reports {events : List (K × ConnectionEvent)} {event : ConnectionEvent} (other : event ≠ .failed) :
    ∀ listed ∈ events ++ [(id, event)], listed ∈ events ∨ listed.2 ≠ .failed := by
  intro listed member
  rcases List.mem_append.mp member with earlier | last
  · exact .inl earlier
  · rw [List.mem_singleton.mp last]
    exact .inr other

theorem reported_report (output : SessionOutput) : Reported id [output] state (report now id state output) := by
  obtain ⟨round, entry⟩ := state
  cases output with
  | event event =>
    cases event with
    | ready => exact ⟨rfl, rfl, rfl, rfl, rfl, mem_reports (by simp), by simp [report]⟩
    | failed => exact ⟨rfl, rfl, rfl, rfl, rfl, fun _ => .inl, by simp [report]⟩
  | send data addr =>
    refine ⟨rfl, ?_, rfl, rfl, rfl, fun _ => .inl, by simp [report]⟩
    simp only [report]
    split <;> rfl
  | message channel data => exact ⟨rfl, rfl, rfl, rfl, rfl, mem_reports (by simp), by simp [report]⟩
  | wait duration => exact ⟨rfl, rfl, rfl, rfl, rfl, fun _ => .inl, by simp [report]⟩

theorem reported_outputs (outputs : List SessionOutput) (state : Round rtc K × PoolEntry rtc) :
    Reported id outputs state (outputs.foldl (report now id) state) := by
  induction outputs generalizing state with
  | nil => exact ⟨rfl, rfl, rfl, rfl, rfl, fun _ => .inl, by simp⟩
  | cons output rest ih => exact (reported_report now state output).trans (ih _)

theorem reported_drain (id : K) (state : Round rtc K × PoolEntry rtc) :
    Reported id state.2.connection.takeOutputs.2 state (drain now id state) :=
  have taken := reported_outputs now state.2.connection.takeOutputs.2
    (state.1, { state.2 with connection := state.2.connection.takeOutputs.1 })
  ⟨taken.entries, taken.owners, taken.ids, taken.recorded, taken.remote, taken.events, taken.failed⟩

omit [DecidableEq K] in
theorem reported_reportRtt : Reported id [] state (reportRtt now id state) := by
  simp only [reportRtt]
  split
  · exact ⟨rfl, rfl, rfl, rfl, rfl, fun _ => .inl, by simp⟩
  · split
    · exact ⟨rfl, rfl, rfl, rfl, rfl, mem_reports (by simp), by simp⟩
    · exact ⟨rfl, rfl, rfl, rfl, rfl, fun _ => .inl, by simp⟩

omit [DecidableEq K] in
theorem claim_keeps (id : K) (state : Round rtc K × PoolEntry rtc) :
    (claim id state).1.thread.entries = state.1.thread.entries ∧ (claim id state).1.events = state.1.events ∧
      (claim id state).1.failed = state.1.failed ∧ (claim id state).2.connection = state.2.connection ∧
      (claim id state).2.remoteAddr = state.2.remoteAddr.or state.2.connection.remoteAddr := by
  obtain ⟨round, entry⟩ := state
  simp only [claim]
  cases recorded : entry.remoteAddr with
  | some held => simp [recorded]
  | none => cases reported : entry.connection.remoteAddr <;> simp [recorded]

omit [DecidableEq K] in
theorem claim_owner (id : K) (state : Round rtc K × PoolEntry rtc) (addr : SocketAddr) :
    (claim id state).1.thread.router.byAddr.lookup addr = (state.1.thread.router.byAddr.lookup addr).or
      (if (state.2.remoteAddr.isNone && state.2.connection.remoteAddr = some addr) = true then some id else none) := by
  obtain ⟨round, entry⟩ := state
  simp only [claim]
  cases recorded : entry.remoteAddr with
  | some held => simp
  | none =>
    cases reported : entry.connection.remoteAddr with
    | none => simp
    | some selected =>
      show (round.thread.router.claimAddr selected id).byAddr.lookup addr = _
      rw [Router.lookup_claimAddr]
      simp [eq_comm]

end

/-- What a visit makes of an entry. -/
structure Visited (now : Instant) (before after : PoolEntry rtc) : Prop where
  ids : after.connection.ids = before.connection.ids
  recorded : after.remoteAddr = before.remoteAddr.or (timeOut now before).connection.remoteAddr
  remote : after.connection.remoteAddr = (timeOut now before).connection.remoteAddr

/-- What a visit makes of the round: it changes the entry it visits and the owner of the address that entry newly
selects, reports no failure, and sets the session aside if that put one out. -/
structure Visits (now : Instant) (id : K) (entry left : PoolEntry rtc) (before after : Round rtc K) : Prop where
  session : Visited now entry left
  entries : after.thread.entries = before.thread.entries.insert id left
  owner : ∀ addr, after.thread.router.byAddr.lookup addr = (before.thread.router.byAddr.lookup addr).or
    (if (entry.remoteAddr.isNone && (timeOut now entry).connection.remoteAddr = some addr) = true then some id else none)
  events : ∀ event ∈ after.events, event ∈ before.events ∨ event.2 ≠ .failed
  failed : ∀ other, other ∈ after.failed ↔
    other ∈ before.failed ∨ other = id ∧ .event .failed ∈ (timeOut now entry).connection.takeOutputs.2

section
variable {now : Instant} {round : Round rtc K} {id : K}

theorem visit_none (absent : round.thread.entries.lookup id = none) : visit now round id = round := by
  simp only [visit, absent]

theorem visit_eq (now : Instant) {entry : PoolEntry rtc} (stored : round.thread.entries.lookup id = some entry) :
    ∃ left, Visits now id entry left round (visit now round id) := by
  obtain ⟨entries, events, failed, connection, recorded⟩ := claim_keeps id (round, timeOut now entry)
  have owner := claim_owner id (round, timeOut now entry)
  have reported := (reported_drain now id (claim id (round, timeOut now entry))).trans (reported_reportRtt now _)
  rw [List.append_nil, connection] at reported
  refine ⟨(reportRtt now id (drain now id (claim id (round, timeOut now entry)))).2, ⟨?_, ?_, ?_⟩, ?_, fun addr => ?_,
    fun event member => ?_, fun other => ?_⟩
  · rw [reported.ids, connection]
    exact Connection.ids_handle ..
  · rw [reported.recorded, recorded]
    rfl
  · rw [reported.remote, connection]
  · simp only [visit, stored]
    rw [reported.entries, entries]
  · simp only [visit, stored]
    rw [reported.owners, owner]
    rfl
  · simp only [visit, stored] at member
    rw [← events]
    exact reported.events event member
  · simp only [visit, stored]
    rw [reported.failed, failed]

theorem Bound.visit (bound : Bound ids round.thread) (now : Instant) (id : K) :
    Bound ids (visit now round id).thread := by
  cases stored : round.thread.entries.lookup id with
  | none => rwa [visit_none stored]
  | some entry =>
    obtain ⟨left, visits⟩ := visit_eq now stored
    have named : ids = some left.connection.ids := by rw [visits.session.ids, bound id entry stored]
    intro other found present
    rw [visits.entries] at present
    exact bound.insert named round.thread.router round.thread.sent other found present

end

theorem Bound.round {thread : PoolThread rtc K} (bound : Bound ids thread) (now : Instant) (order : Visit K) :
    Bound ids (thread.round now order).1 := by
  have visited : ∀ keys : List K, Bound ids (keys.foldl (PoolThread.visit now) ⟨thread, [], []⟩).thread := fun keys =>
    List.foldlRecOn (motive := fun round : Round rtc K => Bound ids round.thread) keys _ bound
      fun _ kept id _ => Bound.visit kept now id
  exact List.foldlRecOn (motive := fun round : Round rtc K => Bound ids round.thread) _ _ (visited _)
    fun _ kept id _ => Bound.remove kept id

end PoolThread

/-! ## The handle of the thread -/

/-- The two channels of a pool and the thread between them. -/
structure SessionPool {crates : WebrtcCrates} (rtc : Rtc crates.Candidate) (K : Type) where
  commands : List (PoolCommand K (Connection rtc))
  events : List (K × ConnectionEvent)
  thread : PoolThread rtc K

namespace SessionPool
variable {crates : WebrtcCrates} {rtc : Rtc crates.Candidate} {K : Type} [DecidableEq K]

def new : SessionPool rtc K := ⟨[], [], .new⟩

def push (pool : SessionPool rtc K) (command : PoolCommand K (Connection rtc)) : SessionPool rtc K :=
  { pool with commands := pool.commands ++ [command] }

-- the thread's loop over the commands, until none is left
def takeCommands (pool : SessionPool rtc K) (now : Instant) : SessionPool rtc K :=
  { pool with commands := [], thread := pool.commands.foldl (PoolThread.command now) pool.thread }

-- the caller waits for the thread to acknowledge the command
def add (pool : SessionPool rtc K) (id : K) (connection : Connection rtc) (localUfrag : String) (now : Instant) :
    SessionPool rtc K :=
  (pool.push (.add id connection localUfrag)).takeCommands now

def drive (pool : SessionPool rtc K) : SessionPool rtc K × List (K × ConnectionEvent) :=
  ({ pool with events := [] }, pool.events)

def round (pool : SessionPool rtc K) (now : Instant) (order : Visit K) : SessionPool rtc K :=
  let (thread, reported) := pool.thread.round now order
  { pool with thread := thread, events := pool.events ++ reported }

end SessionPool

end Nethernet
