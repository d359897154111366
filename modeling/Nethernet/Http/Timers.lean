import Nethernet.Foundation.Machine
import Nethernet.Http.Ledger

/-! The wait that an HTTP signaler asks its driver for. It is computed in an update
from the joins there are, and covers the joins that come later as well: all of them
have the same time for their answer. -/

set_option autoImplicit false

namespace Nethernet
open Foundation Http

inductive HttpSignalerCall where
  | handle (input : HttpSignalerInput)
  | poll

inductive HttpSignalerResult where
  | handled (result : Outcome HttpSignalerError Unit)
  | polled (output : Option HttpSignalerOutput)

-- the clock reading a call is given
def HttpSignalerCall.time : HttpSignalerCall → Option Instant
  | .handle (.request _ _ now _ _) => some now
  | .handle (.update now _) => some now
  | _ => none

namespace HttpSignaler

def call (tools : JoinTools) (signaler : HttpSignaler) : HttpSignalerCall → HttpSignaler × HttpSignalerResult
  | .handle input => ((signaler.handle tools input).1, .handled (signaler.handle tools input).2)
  | .poll => (signaler.poll.1, .polled signaler.poll.2)

/-! ## The joins after a call -/

section
variable {tools : JoinTools} {signaler : HttpSignaler}

theorem lookup_settle {connectionId : UInt64} {reply : HttpSignaler → Pending → HttpSignaler}
    (replies : ∀ current pending, (reply current pending).pending = current.pending) (id : UInt64) :
    (signaler.settle connectionId reply).1.pending.lookup id =
      if id = connectionId then none else signaler.pending.lookup id := by
  unfold settle
  split
  · rename_i absent
    split
    · rename_i same
      rw [same, absent]
    · rfl
  · rw [replies]
    split
    · rename_i same
      rw [same, AList.lookup_erase]
    · rename_i other
      rw [AList.lookup_erase_ne other]

theorem lookup_closed (connection : Nat) (id : UInt64) :
    (signaler.closed connection).pending.lookup id = (signaler.pending.lookup id).filter fun join =>
      connection ∉ signaler.connections ∨ join.connection ≠ connection := by
  unfold closed
  split
  · rename_i absent
    rw [AList.lookup_eq_none] at absent
    cases signaler.pending.lookup id <;> simp [absent, Option.filter]
  · rename_i registered
    have present := Table.mem_of_lookup registered
    rw [Table.lookup_retain]
    simp [present]

/-- A tick leaves the joins whose deadline is still to come. -/
theorem lookup_handleUpdate (now : Instant) (visit : Visit UInt64) (id : UInt64) :
    (signaler.handleUpdate now visit).1.pending.lookup id =
      (signaler.pending.lookup id).filter fun join => now < join.deadline := by
  rw [handleUpdate_eq]
  show (signaler.expire (visit.arrange (signaler.expired now))).1.pending.lookup id = _
  rw [(expire_eq (signaler.distinct_expired now visit) fun _ => mem_pending_of_expired).2.2.2]
  simp only [visit.mem_arrange]
  cases stored : signaler.pending.lookup id with
  | none => simp
  | some join =>
    have late : id ∈ signaler.expired now ↔ join.deadline ≤ now := by
      rw [mem_expired, stored]
      simp
    by_cases past : join.deadline ≤ now
    · simp [Option.filter, late, past, Nat.not_lt_of_le past]
    · simp [Option.filter, late, past, Nat.lt_of_not_le past]

end

/-! ## Where joins come from and where they go -/

end HttpSignaler

/-- The inputs that may take a pending join out of the table. A request does if its id is drawn again. -/
def HttpSignalerInput.Takes (id : UInt64) (join : HttpSignaler.Pending) : HttpSignalerInput → Prop
  | .request _ _ _ _ joinId => joinId = id
  | .answer connectionId _ => connectionId = id
  | .reject connectionId _ => connectionId = id
  | .closed connection => connection = join.connection
  | .update now _ => join.deadline ≤ now
  | _ => False

def HttpSignalerCall.Takes (id : UInt64) (join : HttpSignaler.Pending) : HttpSignalerCall → Prop
  | .handle input => input.Takes id join
  | .poll => False

variable {calls : List HttpSignalerCall}

namespace HttpSignaler

section
variable (tools : JoinTools) {signaler : HttpSignaler}

theorem lookup_answer (connectionId : UInt64) (sdp : String) (id : UInt64) :
    (signaler.answer tools connectionId sdp).1.pending.lookup id =
      if id = connectionId then none else signaler.pending.lookup id := by
  apply lookup_settle
  intro current pending
  rfl

theorem lookup_reject (connectionId : UInt64) (reason : RejectReason) (id : UInt64) :
    (signaler.reject connectionId reason).1.pending.lookup id =
      if id = connectionId then none else signaler.pending.lookup id := by
  apply lookup_settle
  intro current pending
  rfl

theorem pending_poll (signaler : HttpSignaler) : signaler.poll.1.pending = signaler.pending := by
  unfold poll
  split <;> rfl

variable {id : UInt64}

/-- A join that is pending was so before, or the call has posted it. -/
theorem origin_call {call : HttpSignalerCall} {join : Pending}
    (pending : (signaler.call tools call).1.pending.lookup id = some join) :
    signaler.pending.lookup id = some join ∨
      ∃ now ∈ call.time, join.deadline = now + signaler.config.answerTimeout := by
  cases call with
  | poll =>
    rw [call, pending_poll] at pending
    exact .inl pending
  | handle input =>
    cases input with
    | connected connection addr =>
      simp only [call, handle, pending_connected] at pending
      exact .inl pending
    | request connection request now wall joinId =>
      simp only [call, handle] at pending
      rcases handleRequest_cases tools signaler connection request now wall joinId with
        ⟨response, answered⟩ | ⟨-, networkId, player, admitted⟩ | ⟨aborted, -⟩
      · rw [answered] at pending
        exact .inl pending
      · rw [admitted] at pending
        by_cases same : id = joinId
        · rw [same, admitJoin, AList.lookup_insert, Option.some.injEq] at pending
          rw [← pending]
          exact .inr ⟨now, rfl, rfl⟩
        · rw [admitJoin, AList.lookup_insert_ne same] at pending
          exact .inl pending
      · rw [aborted] at pending
        exact .inl pending
    | answer connectionId sdp =>
      simp only [call, handle, lookup_answer] at pending
      exact .inl (Option.ite_none_left_eq_some.mp pending).2
    | reject connectionId reason =>
      simp only [call, handle, lookup_reject] at pending
      exact .inl (Option.ite_none_left_eq_some.mp pending).2
    | setServerData data => exact .inl pending
    | setTokenTrust trust => exact .inl pending
    | closed connection =>
      simp only [call, handle, lookup_closed] at pending
      exact .inl (Option.filter_eq_some_iff.mp pending).1
    | update now visit =>
      simp only [call, handle, lookup_handleUpdate] at pending
      exact .inl (Option.filter_eq_some_iff.mp pending).1

theorem stays_call {call : HttpSignalerCall} {join : Pending} (pending : signaler.pending.lookup id = some join)
    (left : ¬call.Takes id join) : (signaler.call tools call).1.pending.lookup id = some join := by
  cases call with
  | poll => rwa [call, pending_poll]
  | handle input =>
    cases input with
    | connected connection addr => rwa [call, handle, pending_connected]
    | request connection request now wall joinId =>
      simp only [call, handle]
      rcases handleRequest_cases tools signaler connection request now wall joinId with
        ⟨response, answered⟩ | ⟨-, networkId, player, admitted⟩ | ⟨aborted, -⟩
      · rwa [answered]
      · rw [admitted, admitJoin, AList.lookup_insert_ne (Ne.symm left)]
        exact pending
      · rwa [aborted]
    | answer connectionId sdp =>
      rw [call, handle, lookup_answer, if_neg (Ne.symm left)]
      exact pending
    | reject connectionId reason =>
      rw [call, handle, lookup_reject, if_neg (Ne.symm left)]
      exact pending
    | setServerData data => exact pending
    | setTokenTrust trust => exact pending
    | closed connection =>
      rw [call, handle, lookup_closed, pending, Option.filter_eq_some_iff]
      exact ⟨rfl, decide_eq_true (.inr (Ne.symm left))⟩
    | update now visit =>
      rw [call, handle, lookup_handleUpdate, pending, Option.filter_eq_some_iff]
      exact ⟨rfl, decide_eq_true (Nat.lt_of_not_le left)⟩

theorem answerTimeout_call (signaler : HttpSignaler) (call : HttpSignalerCall) :
    (signaler.call tools call).1.config.answerTimeout = signaler.config.answerTimeout := by
  cases call with
  | poll =>
    rw [call, poll]
    split <;> rfl
  | handle input =>
    obtain ⟨trust, same⟩ := config_handle tools signaler input
    rw [call, same]

theorem answerTimeout_run (signaler : HttpSignaler) (calls : List HttpSignalerCall) :
    (run (call tools) signaler calls).1.config.answerTimeout = signaler.config.answerTimeout := by
  have keeps : ∀ (current : HttpSignaler) (input : HttpSignalerCall),
      current.config.answerTimeout = signaler.config.answerTimeout →
        (current.call tools input).1.config.answerTimeout = signaler.config.answerTimeout :=
    fun current input same => (answerTimeout_call tools current input).trans same
  exact run_invariant (call tools) keeps rfl calls

/-- A join that is pending after a run was so before, or a call of the run has posted it. -/
theorem origin_run {join : Pending} (pending : (run (call tools) signaler calls).1.pending.lookup id = some join) :
    signaler.pending.lookup id = some join ∨
      ∃ now ∈ calls.filterMap HttpSignalerCall.time, join.deadline = now + signaler.config.answerTimeout := by
  induction calls generalizing signaler with
  | nil => exact .inl pending
  | cons first rest ih =>
    rw [run_cons] at pending
    rcases ih pending with before | ⟨now, member, posted⟩
    · rcases origin_call tools before with before | ⟨now, member, posted⟩
      · exact .inl before
      · exact .inr ⟨now, List.mem_filterMap.mpr ⟨first, List.mem_cons_self, member⟩, posted⟩
    · rw [answerTimeout_call] at posted
      obtain ⟨call, called, member⟩ := List.mem_filterMap.mp member
      exact .inr ⟨now, List.mem_filterMap.mpr ⟨call, List.mem_cons_of_mem first called, member⟩, posted⟩

theorem stays_run {join : Pending} (pending : signaler.pending.lookup id = some join)
    (left : ∀ call ∈ calls, ¬call.Takes id join) :
    (run (call tools) signaler calls).1.pending.lookup id = some join := by
  induction calls generalizing signaler with
  | nil => exact pending
  | cons first rest ih =>
    rw [run_cons]
    exact ih (stays_call tools pending (left first List.mem_cons_self))
      fun call member => left call (List.mem_cons_of_mem first member)

end

/-! ## The wait -/

section
variable {signaler : HttpSignaler} {now : Instant}

theorem mem_waits {wait : Duration} :
    wait ∈ (signaler.pending.entries.map fun entry => Instant.since entry.2.deadline now) ↔
      ∃ id join, signaler.pending.lookup id = some join ∧ Instant.since join.deadline now = wait := by
  simp only [List.mem_map, Sigma.exists, ← AList.mem_lookup_iff, Option.mem_def]

/-- The wait is the time for an answer if nobody waits for one, and else ends with the first deadline. -/
theorem nextDeadline_cases (signaler : HttpSignaler) (now : Instant) :
    (∀ id, signaler.pending.lookup id = none) ∧ signaler.nextDeadline now = signaler.config.answerTimeout ∨
      (∃ id join, signaler.pending.lookup id = some join ∧ Instant.since join.deadline now = signaler.nextDeadline now) ∧
        ∀ id join, signaler.pending.lookup id = some join → signaler.nextDeadline now ≤ Instant.since join.deadline now := by
  cases least : (signaler.pending.entries.map fun entry => Instant.since entry.2.deadline now).min? with
  | none =>
    have asked : signaler.nextDeadline now = signaler.config.answerTimeout := by
      simp [nextDeadline, least]
    refine .inl ⟨fun id => ?_, asked⟩
    by_contra waits
    obtain ⟨join, pending⟩ := Option.ne_none_iff_exists'.mp waits
    have member : Instant.since join.deadline now ∈
        signaler.pending.entries.map fun entry => Instant.since entry.2.deadline now :=
      mem_waits.mpr ⟨id, join, pending, rfl⟩
    rw [List.min?_eq_none_iff.mp least] at member
    cases member
  | some wait =>
    have asked : signaler.nextDeadline now = wait := by
      simp [nextDeadline, least]
    obtain ⟨member, below⟩ := List.min?_eq_some_iff.mp least
    rw [asked]
    exact .inr ⟨mem_waits.mp member, fun id join pending => below _ (mem_waits.mpr ⟨id, join, pending, rfl⟩)⟩

/-- All deadlines ahead and none further off than the time for an answer: the wait ends at or before each. -/
theorem nextDeadline_bounds (ahead : ∀ id join, signaler.pending.lookup id = some join → now < join.deadline)
    (near : ∀ id join, signaler.pending.lookup id = some join → join.deadline ≤ now + signaler.config.answerTimeout)
    (positive : 0 < signaler.config.answerTimeout) :
    0 < signaler.nextDeadline now ∧ signaler.nextDeadline now ≤ signaler.config.answerTimeout ∧
      ∀ id join, signaler.pending.lookup id = some join → now + signaler.nextDeadline now ≤ join.deadline := by
  rcases signaler.nextDeadline_cases now with ⟨nobody, wait⟩ | ⟨⟨first, join, pending, wait⟩, least⟩
  · rw [wait]
    refine ⟨positive, Nat.le_refl _, fun id join pending => ?_⟩
    rw [nobody id] at pending
    cases pending
  · refine ⟨?_, ?_, fun id other waits => ?_⟩
    · rw [← wait]
      exact Nat.sub_pos_of_lt (ahead first join pending)
    · rw [← wait]
      exact Nat.sub_le_iff_le_add'.mpr (near first join pending)
    · exact Nat.add_le_of_le_sub' (Nat.le_of_lt (ahead id other waits)) (least id other waits)

end

/-! ## Whole runs -/

/-- A pending join is answered with a timeout by the first update at or after its deadline, unless
something in between takes it. -/
def Answers (tools : JoinTools) (signaler : HttpSignaler) : Prop :=
  ∀ id join, signaler.pending.lookup id = some join → ∀ between, (∀ call ∈ between, ¬call.Takes id join) →
    ∀ now visit, join.deadline ≤ now →
      ∃ replies wait, ((run (call tools) signaler between).1.handleUpdate now visit).1.output =
        (run (call tools) signaler between).1.output ++ (replies ++ [.wait wait]) ∧ timedOut join ∈ replies

/-- What an update at `now` and its wait say of the calls `since` then. -/
structure Timers (tools : JoinTools) (before : HttpSignaler) (now : Instant) (visit : Visit UInt64)
    (since : List HttpSignalerCall) (wait : Duration) : Prop where
  asked : ∃ replies, (before.handleUpdate now visit).1.output = before.output ++ (replies ++ [.wait wait])
  positive : 0 < wait
  ahead : ∀ id join, (before.handleUpdate now visit).1.pending.lookup id = some join → now < join.deadline
  covered : ∀ id join, (run (call tools) (before.handleUpdate now visit).1 since).1.pending.lookup id = some join →
    now + wait ≤ join.deadline
  -- a driver that is on time meets each deadline exactly
  punctual : ∀ next, next ≤ now + wait → ∀ id join,
    (run (call tools) (before.handleUpdate now visit).1 since).1.pending.lookup id = some join →
      join.deadline ≤ next → join.deadline = next
  answered : Answers tools (run (call tools) (before.handleUpdate now visit).1 since).1

theorem mem_joinsOf {table : Table UInt64 Pending} {ids : List UInt64} {id : UInt64} {join : Pending}
    (member : id ∈ ids) (stored : table.lookup id = some join) : ⟨id, join⟩ ∈ joinsOf table ids :=
  List.mem_filterMap.mpr ⟨id, member, by rw [stored]; rfl⟩

theorem answers (tools : JoinTools) (signaler : HttpSignaler) : Answers tools signaler := by
  intro id join pending between left now visit late
  have pending := stays_run tools pending left
  generalize (run (call tools) signaler between).1 = current at pending ⊢
  refine ⟨_, _, congrArg (·.1.output) (current.handleUpdate_eq now visit), ?_⟩
  have expired : id ∈ visit.arrange (current.expired now) :=
    visit.mem_arrange.mpr (mem_expired.mpr ⟨join, pending, late⟩)
  exact List.mem_map_of_mem (f := fun join => timedOut join.2) (mem_joinsOf expired pending)

/-- Times that do not go back are below `now` before it and above it later. -/
theorem times_around {before since : List HttpSignalerCall} {now : Instant} {visit : Visit UInt64}
    (ordered : ((before ++ .handle (.update now visit) :: since).filterMap HttpSignalerCall.time).Pairwise (· ≤ ·)) :
    (∀ time ∈ before.filterMap HttpSignalerCall.time, time ≤ now) ∧
      ∀ time ∈ since.filterMap HttpSignalerCall.time, now ≤ time := by
  have timed : (HttpSignalerCall.handle (.update now visit)).time = some now := rfl
  rw [List.filterMap_append, List.filterMap_cons_some timed, List.pairwise_append, List.pairwise_cons] at ordered
  exact ⟨fun time member => ordered.2.2 time member now List.mem_cons_self, ordered.2.1.1⟩

theorem updated_wait (before : HttpSignaler) (now : Instant) (visit : Visit UInt64) :
    ∃ replies, (before.handleUpdate now visit).1.output =
      before.output ++ (replies ++ [.wait ((before.handleUpdate now visit).1.nextDeadline now)]) := by
  rw [handleUpdate_eq]
  exact ⟨_, rfl⟩

/-- An update leaves no join that is over time and asks for a positive wait. No join has its deadline
before the end of that wait, also none that is posted later. -/
theorem timers_sound (tools : JoinTools) {config : HttpSignalerConfig} (positive : 0 < config.answerTimeout)
    {before since : List HttpSignalerCall} {now : Instant} {visit : Visit UInt64}
    (ordered : ((before ++ .handle (.update now visit) :: since).filterMap HttpSignalerCall.time).Pairwise (· ≤ ·)) :
    ∃ wait, Timers tools (run (call tools) (new config) before).1 now visit since wait := by
  obtain ⟨early, later⟩ := times_around ordered
  have timeout : (run (call tools) (new config) before).1.config.answerTimeout = config.answerTimeout :=
    answerTimeout_run tools (new config) before
  have bounded : ∀ id join, (run (call tools) (new config) before).1.pending.lookup id = some join →
      join.deadline ≤ now + config.answerTimeout := by
    intro id join pending
    rcases origin_run tools pending with empty | ⟨time, member, posted⟩
    · cases empty
    · rw [posted]
      exact Nat.add_le_add_right (early time member) _
  generalize (run (call tools) (new config) before).1 = signaler at timeout bounded
  have ahead : ∀ id join, (signaler.handleUpdate now visit).1.pending.lookup id = some join → now < join.deadline := by
    intro id join pending
    rw [lookup_handleUpdate] at pending
    exact of_decide_eq_true (Option.filter_eq_some_iff.mp pending).2
  have near : ∀ id join, (signaler.handleUpdate now visit).1.pending.lookup id = some join →
      join.deadline ≤ now + config.answerTimeout := by
    intro id join pending
    rw [lookup_handleUpdate] at pending
    exact bounded id join (Option.filter_eq_some_iff.mp pending).1
  have same : (signaler.handleUpdate now visit).1.config.answerTimeout = config.answerTimeout :=
    (answerTimeout_call tools signaler (.handle (.update now visit))).trans timeout
  obtain ⟨asks, short, least⟩ := nextDeadline_bounds ahead (same ▸ near) (same ▸ positive)
  have covered : ∀ id join,
      (run (call tools) (signaler.handleUpdate now visit).1 since).1.pending.lookup id = some join →
        now + (signaler.handleUpdate now visit).1.nextDeadline now ≤ join.deadline := by
    intro id join pending
    rcases origin_run tools pending with old | ⟨time, member, posted⟩
    · exact least id join old
    · rw [posted]
      exact Nat.add_le_add (later time member) short
  refine ⟨_, updated_wait signaler now visit, asks, ahead, covered, ?_, answers tools _⟩
  intro next onTime id join pending late
  exact Nat.le_antisymm late (Nat.le_trans onTime (covered id join pending))

-- a join a second before the update and one behind it
def joinAt (seconds : Nat) (joinId : UInt64) : HttpSignalerCall :=
  .handle (.request 0 joinRequest (Duration.fromSecs seconds) .unixEpoch joinId)

theorem timers_of_two_joins :
    0 < ({ tokenTrust := none } : HttpSignalerConfig).answerTimeout ∧
    ∃ wait, Timers plainTools (run (call plainTools) (new { tokenTrust := none }) [joinAt 1 7]).1
      (Duration.fromSecs 2) .inOrder [joinAt 3 8, .poll] wait :=
  ⟨by decide, timers_sound plainTools (by decide) (by decide)⟩

end HttpSignaler

end Nethernet
