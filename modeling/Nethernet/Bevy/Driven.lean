import Nethernet.Bevy.Pool

/-! Which sessions the pool's thread drives, and which of them it will still
drive once it has carried out the commands that wait for it. -/

set_option autoImplicit false

namespace Nethernet
open Foundation

variable {driven : Bool}

namespace PoolCommand
variable {K Link : Type} [DecidableEq K]

/-- Whether the thread drives `id` after a command, given whether it did before. -/
def drives (id : K) (driven : Bool) : PoolCommand K Link → Bool
  | .add key _ _ => driven || key = id
  | .remove key => driven && key ≠ id
  | .signal _ _ => driven
  | .send _ _ _ => driven

def drivesAfter (id : K) (driven : Bool) (commands : List (PoolCommand K Link)) : Bool :=
  commands.foldl (drives id) driven

def adds : PoolCommand K Link → Bool
  | .add _ _ _ => true
  | _ => false

variable {id : K}

-- only an added session starts to be driven
theorem driven_of_drives {command : PoolCommand K Link} (adds : command.adds = false)
    (still : command.drives id driven = true) : driven = true := by
  cases command with
  | add key connection localUfrag => cases adds
  | remove key => exact (Bool.and_eq_true _ _ ▸ still).1
  | signal key signal => exact still
  | send key channel data => exact still

theorem driven_of_drivesAfter {commands : List (PoolCommand K Link)}
    (settled : ∀ command ∈ commands, command.adds = false) (still : drivesAfter id driven commands = true) :
    driven = true := by
  induction commands generalizing driven with
  | nil => exact still
  | cons command rest ih =>
    obtain ⟨first, others⟩ := List.forall_mem_cons.mp settled
    exact driven_of_drives first (ih others still)

theorem drivesAfter_append (id : K) (driven : Bool) (commands later : List (PoolCommand K Link)) :
    drivesAfter id driven (commands ++ later) = drivesAfter id (drivesAfter id driven commands) later :=
  List.foldl_append

theorem drives_mono {more : Bool} (less : driven = true → more = true) (command : PoolCommand K Link)
    (still : command.drives id driven = true) : command.drives id more = true := by
  cases command with
  | add key connection localUfrag =>
    simp only [drives, Bool.or_eq_true] at still ⊢
    exact still.imp_left less
  | remove key =>
    simp only [drives, Bool.and_eq_true] at still ⊢
    exact ⟨less still.1, still.2⟩
  | signal key signal => exact less still
  | send key channel data => exact less still

theorem drivesAfter_mono {more : Bool} (less : driven = true → more = true) (commands : List (PoolCommand K Link))
    (still : drivesAfter id driven commands = true) : drivesAfter id more commands = true := by
  induction commands generalizing driven more with
  | nil => exact less still
  | cons command rest ih => exact ih (drives_mono less command) still

end PoolCommand

namespace PoolThread
variable {crates : WebrtcCrates} {rtc : Rtc crates.Candidate} {K : Type} [DecidableEq K]

def drives (thread : PoolThread rtc K) (id : K) : Bool := (thread.entries.lookup id).isSome

section
variable (thread : PoolThread rtc K) (id : K)

theorem drives_handle (key : K) (input : ConnectionInput) : (thread.handle key input).drives id = thread.drives id := by
  unfold handle
  split
  · rfl
  · rename_i entry stored
    exact Table.isSome_insert_of_lookup stored _ id

theorem drives_receive (stunUsername : Bytes → Option String) (source : SocketAddr) (datagram : Bytes) (now : Instant) :
    (thread.receive stunUsername source datagram now).drives id = thread.drives id := by
  unfold receive
  refine List.foldlRecOn (motive := fun after : PoolThread rtc K => after.drives id = thread.drives id) _ _ rfl ?_
  intro after same key _
  rw [drives_handle, same]

theorem drives_remove (key : K) : (thread.remove key).drives id = (thread.drives id && key ≠ id) := by
  unfold remove drives
  split
  · rename_i absent
    by_cases same : key = id
    · subst same
      simp [absent]
    · simp [same]
  · by_cases same : id = key
    · subst same
      simp
    · simp [AList.lookup_erase_ne same, Ne.symm same]

variable (now : Instant)

theorem drives_command (command : PoolCommand K (Connection rtc)) :
    (thread.command now command).drives id = command.drives id (thread.drives id) := by
  cases command with
  | add key connection localUfrag => exact Table.isSome_insert ..
  | remove key => exact drives_remove ..
  | signal key signal => exact drives_handle ..
  | send key channel data => exact drives_handle ..

theorem drives_commands (commands : List (PoolCommand K (Connection rtc))) :
    (commands.foldl (command now) thread).drives id = PoolCommand.drivesAfter id (thread.drives id) commands := by
  induction commands generalizing thread with
  | nil => rfl
  | cons first rest ih =>
    rw [List.foldl_cons, ih, drives_command]
    rfl

theorem drives_visit (round : Round rtc K) (key : K) :
    (visit now round key).thread.drives id = round.thread.drives id := by
  cases stored : round.thread.entries.lookup key with
  | none => rw [visit_none stored]
  | some entry =>
    obtain ⟨left, visits⟩ := visit_eq now stored
    unfold drives
    rw [visits.entries]
    exact Table.isSome_insert_of_lookup stored left id

theorem drives_visits (round : Round rtc K) (keys : List K) :
    (keys.foldl (visit now) round).thread.drives id = round.thread.drives id :=
  List.foldlRecOn (motive := fun after : Round rtc K => after.thread.drives id = round.thread.drives id) keys _ rfl
    fun after same key _ => (drives_visit id now after key).trans same

/-- A round ends sessions and starts none. -/
theorem drives_of_round {now : Instant} {order : Visit K} (still : (thread.round now order).1.drives id = true) :
    thread.drives id = true := by
  have failing : ∀ (failed : List K) (round : Round rtc K), (failed.foldl fail round).thread.drives id = true →
      round.thread.drives id = true := by
    intro failed
    induction failed with
    | nil => exact fun _ still => still
    | cons key rest ih =>
      intro round still
      have before : (round.thread.remove key).drives id = true := ih (fail round key) still
      rw [drives_remove, Bool.and_eq_true] at before
      exact before.1
  rw [← drives_visits id now ⟨thread, [], []⟩]
  exact failing _ _ still

end

-- a thread for one session reports only while it drives it
theorem drives_of_reported (thread : PoolThread rtc Unit) (now : Instant) (order : Visit Unit)
    (reported : (thread.round now order).2 ≠ []) : thread.drives () = true := by
  cases driven : thread.drives () with
  | true => rfl
  | false =>
    have absent : thread.entries.lookup () = none := by simpa [PoolThread.drives] using driven
    have empty : thread.entries = ∅ := Table.eq_empty fun _ => absent
    have none : order.arrange thread.entries.keys = [] := by
      have perm := order.perm thread.entries.keys
      rw [empty] at perm ⊢
      exact perm.eq_nil
    refine absurd ?_ reported
    unfold PoolThread.round
    rw [none]
    rfl

end PoolThread

namespace SessionPool
variable {crates : WebrtcCrates} {rtc : Rtc crates.Candidate} {K : Type} [DecidableEq K] (pool : SessionPool rtc K)

/-- Whether the thread drives the session once it has carried out all that is queued. -/
def willDrive (id : K) : Bool := PoolCommand.drivesAfter id (pool.thread.drives id) pool.commands

theorem willDrive_push (command : PoolCommand K (Connection rtc)) (id : K) :
    (pool.push command).willDrive id = command.drives id (pool.willDrive id) :=
  PoolCommand.drivesAfter_append ..

theorem willDrive_takeCommands (now : Instant) (id : K) : (pool.takeCommands now).willDrive id = pool.willDrive id :=
  PoolThread.drives_commands ..

theorem willDrive_add (key : K) (connection : Connection rtc) (localUfrag : String) (now : Instant) (id : K) :
    (pool.add key connection localUfrag now).willDrive id = (pool.willDrive id || key = id) := by
  rw [add, willDrive_takeCommands, willDrive_push]
  rfl

theorem willDrive_of_round {now : Instant} {order : Visit K} {id : K} (still : (pool.round now order).willDrive id = true) :
    pool.willDrive id = true :=
  PoolCommand.drivesAfter_mono (PoolThread.drives_of_round _ id) _ still

end SessionPool

/-! ## The steps of the thread -/

/-- What the thread does next: a datagram, one command of the queue, the round over its sessions, or one report
of a round that is not over. -/
inductive PoolStep (K : Type) where
  | receive (source : SocketAddr) (datagram : Bytes) (now : Instant)
  | command (now : Instant)
  | round (now : Instant) (order : Visit K)
  | report (id : K) (event : ConnectionEvent)

namespace SessionPool
variable {crates : WebrtcCrates} {rtc : Rtc crates.Candidate} {K : Type} [DecidableEq K]

def takeCommand (pool : SessionPool rtc K) (now : Instant) : SessionPool rtc K :=
  match pool.commands with
  | [] => pool
  | command :: rest => { pool with commands := rest, thread := pool.thread.command now command }

def advance (stunUsername : Bytes → Option String) (pool : SessionPool rtc K) : PoolStep K → SessionPool rtc K
  | .receive source datagram now => { pool with thread := pool.thread.receive stunUsername source datagram now }
  | .command now => pool.takeCommand now
  | .round now order => pool.round now order
  | .report id event => if pool.thread.drives id then { pool with events := pool.events ++ [(id, event)] } else pool

theorem willDrive_takeCommand (pool : SessionPool rtc K) (now : Instant) (id : K) :
    (pool.takeCommand now).willDrive id = pool.willDrive id := by
  unfold takeCommand
  split
  · rfl
  · rename_i command rest queued
    simp only [willDrive, queued, PoolThread.drives_command]
    rfl

/-- The thread carries out what is queued and drops sessions; it takes up no other. -/
theorem willDrive_of_advance {stunUsername : Bytes → Option String} {pool : SessionPool rtc K} {step : PoolStep K} {id : K}
    (still : (pool.advance stunUsername step).willDrive id = true) : pool.willDrive id = true := by
  cases step with
  | receive source datagram now =>
    exact PoolCommand.drivesAfter_mono (fun driven => (PoolThread.drives_receive ..).symm.trans driven) _ still
  | command now => exact (willDrive_takeCommand ..).symm.trans still
  | round now order => exact willDrive_of_round pool still
  | report key event =>
    unfold advance at still
    dsimp only at still
    split at still <;> exact still

end SessionPool

end Nethernet
