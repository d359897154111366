import Nethernet.Foundation.Machine
import Nethernet.Http.Joins

/-! Accounts of the HTTP signaler: every request gets one response, at once or as
a join that is later answered, and a join ends once. -/

set_option autoImplicit false

namespace Nethernet
open Foundation Http

namespace HttpSignaler

abbrev Join := (_ : UInt64) × Pending

/-- Whom a response to the join goes to, and whether the connection is kept alive after it. -/
def owner (join : Join) : Nat × Bool := (join.2.connection, join.2.keepAlive)

end HttpSignaler

-- whom a response goes to, and whether the connection is kept alive after it
def HttpSignalerOutput.target : HttpSignalerOutput → Option (Nat × Bool)
  | .response connection _ keepAlive => some (connection, keepAlive)
  | _ => none

namespace HttpSignalerInput

/-- The response a request asks for. -/
def asked : HttpSignalerInput → List (Nat × Bool)
  | .request connection posted _ _ _ => [(connection, HttpSignaler.keepAlive posted)]
  | _ => []

-- the random id drawn for a request, should it become a join
def joinId : HttpSignalerInput → Option UInt64
  | .request _ _ _ _ joinId => some joinId
  | _ => none

end HttpSignalerInput

variable (connection : Nat) {input : HttpSignalerInput} {signaler : HttpSignaler} {connectionId : UInt64}
  {after : HttpSignaler} (outputs : List HttpSignalerOutput) {added : List HttpSignalerOutput}
  {inputs : List HttpSignalerInput} {now : Instant}

namespace HttpSignaler

/-! ## One call -/

def joinsOf (pending : Table UInt64 Pending) (ids : List UInt64) : List Join :=
  ids.filterMap fun id => (pending.lookup id).map (⟨id, ·⟩)

/-- The joins that a call takes up to answer them, in order. -/
def settled (signaler : HttpSignaler) : HttpSignalerInput → List Join
  | .answer connectionId _ | .reject connectionId _ => joinsOf signaler.pending [connectionId]
  | .update now visit => joinsOf signaler.pending (visit.arrange (signaler.expired now))
  | _ => []

/-- The joins that are gone after a connection closed. -/
def discarded (signaler : HttpSignaler) (input : HttpSignalerInput) (after : HttpSignaler) : List Join :=
  match input with
  | .closed _ => signaler.pending.entries.filter fun join => join ∉ after.pending.entries
  | _ => []

/-- A call as the ledger notes it. -/
structure Call where
  input : HttpSignalerInput
  settled : List Join
  discarded : List Join
  produced : List HttpSignalerOutput

def record (tools : JoinTools) (signaler : HttpSignaler) (input : HttpSignalerInput) : HttpSignaler × Call :=
  let after := (signaler.handle tools input).1
  (after, ⟨input, signaler.settled input, signaler.discarded input after, after.output.drop signaler.output.length⟩)

/-- What a call does, `posted` being the join a request leaves waiting: joins are neither lost nor made
up, and the responses are those that requests and settled joins ask for, in order. -/
structure Account (signaler : HttpSignaler) (call : Call) (after : HttpSignaler) (posted : List Join) : Prop where
  joins : (signaler.pending.entries ++ posted).Perm (call.settled ++ call.discarded ++ after.pending.entries)
  replies : call.produced.filterMap HttpSignalerOutput.target ++ posted.map owner =
    call.settled.map owner ++ call.input.asked
  ids : (posted.map Sigma.fst).Sublist call.input.joinId.toList
  posts : ∀ join ∈ posted, ∃ request now wall, call.input = .request join.2.connection request now wall join.1 ∧
    join.2.keepAlive = keepAlive request
  room : posted ≠ [] → signaler.pending.size < signaler.config.maxPendingJoins

section
variable {tools : JoinTools}

theorem produced_eq (output : after.output = signaler.output ++ added) :
    after.output.drop signaler.output.length = added := by
  rw [output, List.drop_left]

-- a call that posts no join
theorem Account.unposted {call : Call}
    (joins : signaler.pending.entries.Perm (call.settled ++ call.discarded ++ after.pending.entries))
    (replies : call.produced.filterMap HttpSignalerOutput.target = call.settled.map owner ++ call.input.asked) :
    Account signaler call after [] where
  joins := by rwa [List.append_nil]
  replies := by rwa [List.map_nil, List.append_nil]
  ids := List.nil_sublist _
  posts _ none := nomatch none
  room some := absurd rfl some

-- a call that leaves the joins alone and answers nobody
theorem Account.quiet (pending : after.pending = signaler.pending) (asked : input.asked = [])
    (silent : added.filterMap HttpSignalerOutput.target = []) : Account signaler ⟨input, [], [], added⟩ after [] :=
  .unposted (by simp [pending]) (by simp [asked, silent])

theorem account_request {connection : Nat} {request : Request String} {wall : SystemTime} {joinId : UInt64}
    (fresh : joinId ∉ signaler.pending)
    (checkable : signaler.Checkable tools (.request connection request now wall joinId)) :
    ∃ posted, Account signaler (signaler.record tools (.request connection request now wall joinId)).2
      (signaler.record tools (.request connection request now wall joinId)).1 posted := by
  simp only [record, handle]
  rcases checkable.cases with ⟨response, answered⟩ | ⟨room, networkId, player, admitted⟩
  · rw [answered, produced_eq rfl]
    exact ⟨[], .unposted (by simp [settled, discarded, push]) rfl⟩
  · rw [admitted, produced_eq rfl]
    refine ⟨[⟨joinId, connection, keepAlive request, now + signaler.config.answerTimeout⟩],
      ⟨?_, rfl, List.Sublist.refl _, fun join only => ?_, fun _ => room⟩⟩
    · have entries : (signaler.admitJoin tools connection networkId request (keepAlive request) now joinId
          player).pending.entries =
          ⟨joinId, connection, keepAlive request, now + signaler.config.answerTimeout⟩ :: signaler.pending.entries :=
        AList.entries_insert_of_notMem fresh
      rw [entries]
      exact List.perm_append_singleton _ _
    · cases List.mem_singleton.mp only
      exact ⟨request, now, wall, rfl, rfl⟩

/-- A join that is settled leaves the table and gets one response. -/
theorem account_settle {reply : HttpSignaler → Pending → HttpSignaler} (replies : ∀ current pending, ∃ response,
      reply current pending = current.push pending.connection response pending.keepAlive) (asked : input.asked = []) :
    Account signaler ⟨input, joinsOf signaler.pending [connectionId], [],
      (signaler.settle connectionId reply).1.output.drop signaler.output.length⟩
      (signaler.settle connectionId reply).1 [] := by
  unfold settle joinsOf
  cases stored : signaler.pending.lookup connectionId with
  | none =>
    simp only [List.filterMap_cons, List.filterMap_nil, stored, Option.map_none, List.drop_length]
    exact .quiet rfl asked rfl
  | some pending =>
    obtain ⟨response, replied⟩ := replies { signaler with pending := signaler.pending.erase connectionId } pending
    simp only [replied]
    rw [produced_eq rfl]
    exact .unposted (by simpa [push, stored] using Table.entries_perm_erase stored)
      (by simp [asked, HttpSignalerOutput.target, owner, stored])

theorem entries_closed (signaler : HttpSignaler) (connection : Nat) : (signaler.closed connection).pending = signaler.pending ∨
    (signaler.closed connection).pending =
      signaler.pending.retain fun _ pending => pending.connection ≠ connection := by
  unfold closed
  split
  · exact .inl rfl
  · exact .inr rfl

theorem output_closed : (signaler.closed connection).output = signaler.output := by
  unfold closed
  split <;> rfl

theorem joins_closed : signaler.pending.entries.Perm
    (signaler.discarded (.closed connection) (signaler.closed connection) ++
      (signaler.closed connection).pending.entries) := by
  unfold discarded
  rcases entries_closed signaler connection with same | kept
  · have none : (signaler.pending.entries.filter fun join => join ∉ (signaler.closed connection).pending.entries) = [] := by
      rw [List.filter_eq_nil_iff]
      intro join member
      simp [same, member]
    rw [none, same, List.nil_append]
  · have entries : (signaler.closed connection).pending.entries =
        signaler.pending.entries.filter fun join => !decide (join.2.connection = connection) := by
      rw [kept, Table.retain]
      simp only [ne_eq, decide_not]
    have gone : (signaler.pending.entries.filter fun join => join ∉ (signaler.closed connection).pending.entries) =
        signaler.pending.entries.filter fun join => join.2.connection = connection := by
      apply List.filter_congr
      intro join member
      simp [entries, List.mem_filter, member]
    rw [gone, entries]
    exact (List.filter_append_perm _ _).symm

theorem account_closed :
    Account signaler (signaler.record tools (.closed connection)).2 (signaler.record tools (.closed connection)).1 [] := by
  have silent : (signaler.closed connection).output.drop signaler.output.length = [] := by
    rw [output_closed, List.drop_length]
  refine .unposted (joins_closed connection) ?_
  simp only [record, handle, silent]
  rfl

theorem joinsOf_erase {rest : List UInt64} (absent : connectionId ∉ rest) (table : Table UInt64 Pending) :
    joinsOf (table.erase connectionId) rest = joinsOf table rest := by
  apply List.filterMap_congr
  intro id member
  have other : id ≠ connectionId := fun same => absent (same ▸ member)
  rw [AList.lookup_erase_ne other]

theorem joinsOf_cons {pending : Pending} {table : Table UInt64 Pending}
    (stored : table.lookup connectionId = some pending) (rest : List UInt64) :
    joinsOf table (connectionId :: rest) = ⟨connectionId, pending⟩ :: joinsOf table rest := by
  simp [joinsOf, stored]

-- the reply to a join that nobody answered
def timedOut (pending : Pending) : HttpSignalerOutput :=
  .response pending.connection ⟨.gatewayTimeout, [("content-length", "0")], ""⟩ pending.keepAlive

theorem reject_timeout {pending : Pending} (stored : signaler.pending.lookup connectionId = some pending) :
    signaler.reject connectionId .timeout =
      ({ signaler with
        pending := signaler.pending.erase connectionId
        output := signaler.output ++ [timedOut pending] }, .ok ()) := by
  simp only [reject, settle, stored]
  rfl

/-- The expired joins are all there and different, so each of them is settled. -/
theorem expire_eq {expired : List UInt64} (distinct : expired.Nodup) (present : ∀ id ∈ expired, id ∈ signaler.pending) :
    (signaler.expire expired).2 = .ok () ∧
      (signaler.expire expired).1.output =
        signaler.output ++ (joinsOf signaler.pending expired).map (timedOut ·.2) ∧
      signaler.pending.entries.Perm (joinsOf signaler.pending expired ++ (signaler.expire expired).1.pending.entries) ∧
      ∀ id, (signaler.expire expired).1.pending.lookup id = if id ∈ expired then none else signaler.pending.lookup id := by
  induction expired generalizing signaler with
  | nil => exact ⟨rfl, (List.append_nil _).symm, .refl _, fun _ => (if_neg List.not_mem_nil).symm⟩
  | cons id rest ih =>
    obtain ⟨absent, distinct⟩ := List.nodup_cons.mp distinct
    obtain ⟨pending, stored⟩ := Option.isSome_iff_exists.mp (AList.lookup_isSome.mpr (present id List.mem_cons_self))
    have left : ∀ other ∈ rest, other ∈ signaler.pending.erase id := fun other member =>
      AList.mem_erase.mpr ⟨fun same => absent (same ▸ member), present other (List.mem_cons_of_mem id member)⟩
    obtain ⟨done, output, joins, others⟩ := @ih
      { signaler with pending := signaler.pending.erase id, output := signaler.output ++ [timedOut pending] } distinct left
    simp only [joinsOf_erase absent] at output joins
    simp only [expire, reject_timeout stored, joinsOf_cons stored, List.map_cons, List.cons_append]
    refine ⟨done, ?_, (Table.entries_perm_erase stored).trans (joins.cons _), fun other => (others other).trans ?_⟩
    · rw [output, List.append_assoc]
      rfl
    · by_cases same : other = id
      · rw [same]
        simp
      · simp [same, AList.lookup_erase_ne same]

theorem mem_expired {id : UInt64} :
    id ∈ signaler.expired now ↔ ∃ join, signaler.pending.lookup id = some join ∧ join.deadline ≤ now := by
  show id ∈ signaler.pending.retain (fun _ pending => pending.deadline ≤ now) ↔ _
  rw [← AList.lookup_isSome, Option.isSome_iff_exists]
  refine exists_congr fun join => ?_
  rw [Table.lookup_retain, Option.filter_eq_some_iff]
  simp

theorem distinct_expired (now : Instant) (visit : Visit UInt64) : (visit.arrange (signaler.expired now)).Nodup :=
  (visit.perm (signaler.expired now)).nodup_iff.mpr (AList.keys_nodup _)

theorem mem_pending_of_expired {visit : Visit UInt64} {id : UInt64}
    (member : id ∈ visit.arrange (signaler.expired now)) : id ∈ signaler.pending := by
  obtain ⟨join, stored, -⟩ := mem_expired.mp (visit.mem_arrange.mp member)
  exact Table.mem_of_lookup stored

/-- An update settles the joins that are over time and then says how long to wait for the others. -/
theorem handleUpdate_eq (now : Instant) (visit : Visit UInt64) :
    signaler.handleUpdate now visit =
      ({ (signaler.expire (visit.arrange (signaler.expired now))).1 with
        output := signaler.output ++
          ((joinsOf signaler.pending (visit.arrange (signaler.expired now))).map (timedOut ·.2) ++
            [.wait ((signaler.expire (visit.arrange (signaler.expired now))).1.nextDeadline now)]) }, .ok ()) := by
  obtain ⟨done, output, -⟩ := expire_eq (signaler.distinct_expired now visit) fun _ => mem_pending_of_expired
  unfold handleUpdate
  split
  · rename_i failed
    rw [failed] at done
    cases done
  · rename_i succeeded
    rw [succeeded] at output ⊢
    rw [← List.append_assoc, ← output]

theorem target_timedOut (joins : List Join) :
    (joins.map (timedOut ·.2)).filterMap HttpSignalerOutput.target = joins.map owner := by
  rw [List.filterMap_map]
  exact congrFun List.filterMap_eq_map joins

theorem account_update (now : Instant) (visit : Visit UInt64) :
    Account signaler (signaler.record tools (.update now visit)).2 (signaler.record tools (.update now visit)).1 [] := by
  have updated := signaler.handleUpdate_eq now visit
  obtain ⟨-, -, joins, -⟩ := expire_eq (signaler.distinct_expired now visit) fun _ => mem_pending_of_expired
  refine .unposted ?_ ?_
  · simp only [record, handle, settled, discarded, updated, List.append_nil]
    exact joins
  · simp only [record, handle, settled, updated, List.drop_left, List.filterMap_append, target_timedOut]
    rfl

theorem account_connected (addr : SocketAddr) :
    Account signaler (signaler.record tools (.connected connection addr)).2
      (signaler.record tools (.connected connection addr)).1 [] := by
  have pending := signaler.pending_connected connection addr
  simp only [record, handle, settled, discarded]
  rcases connected_cases signaler connection addr with ⟨output, -⟩ | ⟨output, -⟩
  · rw [output, List.drop_length]
    exact .quiet pending rfl rfl
  · rw [produced_eq output]
    exact .quiet pending rfl rfl

theorem account_set (output : (signaler.handle tools input).1.output = signaler.output)
    (pending : (signaler.handle tools input).1.pending = signaler.pending) (asked : input.asked = [])
    (unsettled : signaler.settled input = []) (kept : signaler.discarded input (signaler.handle tools input).1 = []) :
    Account signaler (signaler.record tools input).2 (signaler.record tools input).1 [] := by
  simp only [record, output, List.drop_length, unsettled, kept]
  exact .quiet pending asked rfl

/-- Every call keeps its accounts, if the id drawn for a request is not waiting already and the check of
its identity returns. -/
theorem account_record (fresh : ∀ id ∈ input.joinId, id ∉ signaler.pending)
    (checkable : signaler.Checkable tools input) :
    ∃ posted, Account signaler (signaler.record tools input).2 (signaler.record tools input).1 posted := by
  cases input with
  | connected connection addr => exact ⟨[], account_connected connection addr⟩
  | request connection request now wall joinId => exact account_request (fresh joinId rfl) checkable
  | answer connectionId sdp => exact ⟨[], account_settle (fun _ _ => ⟨_, rfl⟩) rfl⟩
  | reject connectionId reason => exact ⟨[], account_settle (fun _ _ => ⟨_, rfl⟩) rfl⟩
  | setServerData data => exact ⟨[], account_set rfl rfl rfl rfl rfl⟩
  | setTokenTrust trust => exact ⟨[], account_set rfl rfl rfl rfl rfl⟩
  | closed connection => exact ⟨[], account_closed connection⟩
  | update now visit => exact ⟨[], account_update now visit⟩

end

/-! ## Whole runs -/

/-- What a run does, `posted` being the joins that its requests left waiting. -/
structure RunAccount (signaler : HttpSignaler) (inputs : List HttpSignalerInput) (calls : List Call)
    (after : HttpSignaler) (posted : List Join) : Prop where
  joins : (signaler.pending.entries ++ posted).Perm
    (calls.flatMap Call.settled ++ calls.flatMap Call.discarded ++ after.pending.entries)
  replies : ((calls.flatMap Call.produced).filterMap HttpSignalerOutput.target ++ posted.map owner).Perm
    ((calls.flatMap Call.settled).map owner ++ inputs.flatMap HttpSignalerInput.asked)
  ids : (posted.map Sigma.fst).Sublist (inputs.filterMap HttpSignalerInput.joinId)
  posts : ∀ join ∈ posted, ∃ request now wall, .request join.2.connection request now wall join.1 ∈ inputs ∧
    join.2.keepAlive = keepAlive request

section
variable {next : HttpSignaler} {call : Call} {calls : List Call} {first others : List Join}

theorem RunAccount.nil : RunAccount signaler [] [] signaler [] where
  joins := by simp
  replies := .refl _
  ids := List.Sublist.refl _
  posts _ none := nomatch none

theorem joinIds_cons (input : HttpSignalerInput) (rest : List HttpSignalerInput) :
    (input :: rest).filterMap HttpSignalerInput.joinId =
      input.joinId.toList ++ rest.filterMap HttpSignalerInput.joinId := by
  cases drawn : input.joinId <;> simp [drawn]

theorem RunAccount.cons (step : Account signaler call next first) (rest : RunAccount next inputs calls after others) :
    RunAccount signaler (call.input :: inputs) (call :: calls) after (first ++ others) where
  joins := by
    rw [List.perm_iff_count]
    intro join
    have one := step.joins.count_eq join
    have more := rest.joins.count_eq join
    simp only [List.flatMap_cons, List.count_append] at one more ⊢
    omega
  replies := by
    rw [List.perm_iff_count]
    intro reply
    have one := congrArg (List.count reply) step.replies
    have more := rest.replies.count_eq reply
    simp only [List.flatMap_cons, List.filterMap_append, List.map_append, List.count_append] at one more ⊢
    omega
  ids := by
    rw [joinIds_cons, List.map_append]
    exact step.ids.append rest.ids
  posts join member := by
    rcases List.mem_append.mp member with new | old
    · obtain ⟨request, now, wall, same, flag⟩ := step.posts join new
      exact ⟨request, now, wall, same ▸ List.mem_cons_self, flag⟩
    · obtain ⟨request, now, wall, asked, flag⟩ := rest.posts join old
      exact ⟨request, now, wall, List.mem_cons_of_mem _ asked, flag⟩

-- ids drawn later are not among those that wait after the call
theorem Account.distinct (step : Account signaler call next first)
    (distinct : (signaler.pending.keys ++ (call.input :: inputs).filterMap HttpSignalerInput.joinId).Nodup) :
    (next.pending.keys ++ inputs.filterMap HttpSignalerInput.joinId).Nodup := by
  rw [joinIds_cons, List.nodup_iff_count_le_one] at distinct
  rw [List.nodup_iff_count_le_one]
  intro id
  have once := distinct id
  have kept := (step.joins.map Sigma.fst).count_eq id
  have drawn := step.ids.count_le id
  simp only [List.map_append, List.count_append] at once kept drawn ⊢
  have keys : ∀ table : Table UInt64 Pending, table.keys = table.entries.map Sigma.fst := fun _ => rfl
  rw [keys] at once ⊢
  omega

end

theorem fresh_of_distinct {rest : List HttpSignalerInput}
    (distinct : (signaler.pending.keys ++ (input :: rest).filterMap HttpSignalerInput.joinId).Nodup) :
    ∀ id ∈ input.joinId, id ∉ signaler.pending := by
  intro id drawn waits
  have later : id ∈ (input :: rest).filterMap HttpSignalerInput.joinId :=
    List.mem_filterMap.mpr ⟨input, List.mem_cons_self, drawn⟩
  exact (List.nodup_append.mp distinct).2.2 id waits id later rfl

theorem run_account {tools : JoinTools}
    (distinct : (signaler.pending.keys ++ inputs.filterMap HttpSignalerInput.joinId).Nodup)
    (checkable : Along (record tools) (Checkable tools) signaler inputs) :
    ∃ posted, RunAccount signaler inputs (run (record tools) signaler inputs).2 (run (record tools) signaler inputs).1
      posted := by
  induction inputs generalizing signaler with
  | nil => exact ⟨[], .nil⟩
  | cons input rest ih =>
    obtain ⟨first, step⟩ := account_record (fresh_of_distinct distinct) checkable.1
    obtain ⟨others, account⟩ := ih (step.distinct distinct) checkable.2
    exact ⟨first ++ others, .cons step account⟩

/-- A call that had room for the join it posts stays within the limit. -/
theorem Account.limit {call : Call} {posted : List Join} (step : Account signaler call after posted)
    (within : signaler.pending.size ≤ signaler.config.maxPendingJoins) :
    after.pending.size ≤ signaler.config.maxPendingJoins := by
  have joins := step.joins.length_eq
  have few := step.ids.length_le
  have one : call.input.joinId.toList.length ≤ 1 := Option.length_toList_le
  simp only [List.length_append, List.length_map] at joins few
  have size : ∀ table : Table UInt64 Pending, table.size = table.entries.length := fun _ => rfl
  rw [size] at within ⊢
  cases posted with
  | nil =>
    rw [List.length_nil] at joins
    omega
  | cons join rest =>
    have room := step.room (List.cons_ne_nil join rest)
    rw [size] at room
    omega

theorem limit_run {tools : JoinTools}
    (distinct : (signaler.pending.keys ++ inputs.filterMap HttpSignalerInput.joinId).Nodup)
    (checkable : Along (record tools) (Checkable tools) signaler inputs)
    (within : signaler.pending.size ≤ signaler.config.maxPendingJoins) :
    (run (record tools) signaler inputs).1.pending.size ≤ signaler.config.maxPendingJoins := by
  induction inputs generalizing signaler with
  | nil => exact within
  | cons input rest ih =>
    obtain ⟨first, step⟩ := account_record (fresh_of_distinct distinct) checkable.1
    obtain ⟨trust, config⟩ := config_handle tools signaler input
    have limit : (signaler.record tools input).1.config.maxPendingJoins = signaler.config.maxPendingJoins := by
      simp only [record, config]
    have later := ih (step.distinct distinct) checkable.2 (limit.symm ▸ step.limit within)
    rwa [limit] at later

/-! ## Responses and their subjects -/

def Call.responses (call : Call) : List HttpSignalerOutput := call.produced.filter (·.target.isSome)

/-- The joins that a call answers, each with its response. -/
def Call.subjects (call : Call) : List (Join × HttpSignalerOutput) := call.settled.zip call.responses

theorem targets_responses :
    (outputs.filter (·.target.isSome)).map HttpSignalerOutput.target =
      (outputs.filterMap HttpSignalerOutput.target).map some := by
  induction outputs with
  | nil => rfl
  | cons output rest ih => cases sent : output.target <;> simp [sent, ih]

theorem zip_of_map_eq {A B C : Type} {f : A → C} {g : B → C} {left : List A} {right : List B}
    (same : left.map f = right.map g) : ∀ pair ∈ left.zip right, f pair.1 = g pair.2 := by
  induction left generalizing right with
  | nil => simp
  | cons a left ih =>
    cases right with
    | nil => simp
    | cons b right =>
      obtain ⟨head, tail⟩ := List.cons.inj same
      intro pair member
      rcases List.mem_cons.mp member with rfl | later
      · exact head
      · exact ih tail pair later

/-- A request settles no join; any other call responds to the joins it settles, in order. -/
def Call.Answers (call : Call) : Prop :=
  match call.input.asker with
  | some _ => call.settled = []
  | none => call.responses.map HttpSignalerOutput.target = call.settled.map fun join => some (owner join)

theorem answers_record (tools : JoinTools) (signaler : HttpSignaler) (input : HttpSignalerInput) :
    (signaler.record tools input).2.Answers := by
  have cases : (∃ connection, input.asker = some connection ∧ signaler.settled input = []) ∨
      (input.asker = none ∧ input.joinId = none ∧ input.asked = [] ∧ signaler.Checkable tools input) := by
    cases input
    case request connection request now wall joinId => exact .inl ⟨connection, rfl, rfl⟩
    all_goals exact .inr ⟨rfl, rfl, rfl, trivial⟩
  rcases cases with ⟨connection, asks, unsettled⟩ | ⟨asks, undrawn, asked, checkable⟩
  · have same : (signaler.record tools input).2.input.asker = some connection := asks
    rw [Call.Answers, same]
    exact unsettled
  · have fresh : ∀ id ∈ input.joinId, id ∉ signaler.pending := by simp [undrawn]
    obtain ⟨posted, account⟩ := account_record fresh checkable
    have ids : (posted.map Sigma.fst).Sublist input.joinId.toList := account.ids
    rw [undrawn, Option.toList_none, List.sublist_nil, List.map_eq_nil_iff] at ids
    have replies := account.replies
    have same : (signaler.record tools input).2.input = input := rfl
    rw [ids, same, asked, List.map_nil, List.append_nil, List.append_nil] at replies
    rw [Call.Answers, same, asks, Call.responses, targets_responses, replies, List.map_map]
    rfl

theorem Call.Answers.target {call : Call} (answers : call.Answers) {subject : Join × HttpSignalerOutput}
    (member : subject ∈ call.subjects) : subject.2.target = some (owner subject.1) := by
  unfold Call.Answers at answers
  split at answers
  · rw [Call.subjects, answers] at member
    cases member
  · exact (zip_of_map_eq answers.symm subject member).symm

theorem Call.Answers.length {call : Call} (answers : call.Answers) (other : call.input.asker = none) :
    call.responses.length = call.settled.length := by
  rw [Call.Answers, other] at answers
  simpa using congrArg List.length answers

theorem Call.Answers.subjects_fst {call : Call} (answers : call.Answers) :
    call.subjects.map Prod.fst = call.settled := by
  cases asks : call.input.asker with
  | none => exact List.map_fst_zip (answers.length asks).ge
  | some connection =>
    rw [Call.Answers, asks] at answers
    simp only [Call.subjects, answers, List.zip_nil_left, List.map_nil]

/-! ## The accounts of a run -/

def requestsOn (connection : Nat) (inputs : List HttpSignalerInput) : Nat :=
  inputs.countP (·.asker = some connection)

def responsesTo (connection : Nat) (outputs : List HttpSignalerOutput) : Nat :=
  outputs.countP fun output => output.target.map Prod.fst = some connection

def joinsOn (connection : Nat) (joins : List Join) : Nat := joins.countP (·.2.connection = connection)

theorem countP_asked (inputs : List HttpSignalerInput) :
    (inputs.flatMap HttpSignalerInput.asked).countP (·.1 = connection) = requestsOn connection inputs := by
  induction inputs with
  | nil => rfl
  | cons input rest ih =>
    have one : input.asked.countP (·.1 = connection) = if input.asker = some connection then 1 else 0 := by
      cases input
      case request other request now wall joinId => simp [HttpSignalerInput.asked, HttpSignalerInput.asker, List.countP_cons]
      all_goals rfl
    rw [List.flatMap_cons, List.countP_append, ih, one, requestsOn, requestsOn, List.countP_cons, Nat.add_comm]
    simp

theorem countP_owner (joins : List Join) : (joins.map owner).countP (·.1 = connection) = joinsOn connection joins :=
  List.countP_map

theorem countP_targets :
    (outputs.filterMap HttpSignalerOutput.target).countP (·.1 = connection) = responsesTo connection outputs := by
  rw [List.countP_filterMap]
  apply List.countP_congr
  intro output _
  cases output.target <;> simp

/-- What a run from the start comes to. -/
structure Accounts (tools : JoinTools) (config : HttpSignalerConfig) (inputs : List HttpSignalerInput)
    (final : HttpSignaler) (calls : List Call) : Prop where
  /-- Every request was responded to, waits as a join, or was a join of a connection that closed. -/
  balanced : ∀ connection, requestsOn connection inputs =
    responsesTo connection (calls.flatMap Call.produced) + joinsOn connection final.pending.entries +
      joinsOn connection (calls.flatMap Call.discarded)
  /-- No join is answered twice. -/
  once : ((calls.flatMap Call.subjects).map (·.1.1)).Nodup
  /-- A response of a call that is no request answers a join. -/
  complete : ∀ call ∈ calls, call.input.asker = none → call.subjects.map Prod.snd = call.responses
  /-- A join is answered on the connection that posted it, with the flag of its request. -/
  owned : ∀ subject ∈ calls.flatMap Call.subjects, ∃ connection request now wall response,
    .request connection request now wall subject.1.1 ∈ inputs ∧
      subject.2 = .response connection response (keepAlive request)
  unknown : ∀ connectionId, connectionId ∉ final.pending →
    (∀ sdp, final.handle tools (.answer connectionId sdp) = (final, .err (.unknownConnection connectionId))) ∧
    ∀ reason, final.handle tools (.reject connectionId reason) = (final, .err (.unknownConnection connectionId))
  limited : final.pending.size ≤ config.maxPendingJoins

theorem settle_unknown (absent : connectionId ∉ signaler.pending) (reply : HttpSignaler → Pending → HttpSignaler) :
    signaler.settle connectionId reply = (signaler, .error (.unknownConnection connectionId)) := by
  rw [settle, AList.lookup_eq_none.mpr absent]

theorem target_eq_some {output : HttpSignalerOutput} {connection : Nat} {keepAlive : Bool}
    (sent : output.target = some (connection, keepAlive)) :
    ∃ response, output = .response connection response keepAlive := by
  cases output with
  | response other response flag =>
    cases sent
    exact ⟨response, rfl⟩
  | close other => cases sent
  | offer offer => cases sent
  | wait duration => cases sent

/-- In every run whose tokens can be checked, each request is answered once, by a response or as a join. -/
theorem requests_answered_once (tools : JoinTools) (config : HttpSignalerConfig) (inputs : List HttpSignalerInput)
    (distinct : (inputs.filterMap HttpSignalerInput.joinId).Nodup)
    (checkable : Along (record tools) (Checkable tools) (new config) inputs) :
    Accounts tools config inputs (run (record tools) (new config) inputs).1 (run (record tools) (new config) inputs).2 := by
  have fresh : ((new config).pending.keys ++ inputs.filterMap HttpSignalerInput.joinId).Nodup := distinct
  obtain ⟨posted, account⟩ := run_account fresh checkable
  have answers := run_outputs (record tools) (answers_record tools) (new config) inputs
  generalize (run (record tools) (new config) inputs).2 = calls at account answers ⊢
  have joins : posted.Perm (calls.flatMap Call.settled ++ calls.flatMap Call.discarded ++
      (run (record tools) (new config) inputs).1.pending.entries) := account.joins
  have settledIn : ∀ subject ∈ calls.flatMap Call.subjects, subject.1 ∈ posted := by
    intro subject member
    obtain ⟨call, called, answered⟩ := List.mem_flatMap.mp member
    have settled : subject.1 ∈ calls.flatMap Call.settled :=
      List.mem_flatMap.mpr ⟨call, called, (List.of_mem_zip answered).1⟩
    exact joins.mem_iff.mpr (List.mem_append_left _ (List.mem_append_left _ settled))
  constructor
  case balanced =>
    intro connection
    have replies := account.replies.countP_eq (·.1 = connection)
    have balance := joins.countP_eq (·.2.connection = connection)
    simp only [List.countP_append, countP_owner, countP_targets, countP_asked] at replies
    simp only [List.countP_append] at balance
    unfold joinsOn at *
    omega
  case once =>
    have ids : (calls.flatMap Call.subjects).map (·.1.1) = (calls.flatMap Call.settled).map Sigma.fst := by
      simp only [List.map_flatMap]
      apply List.flatMap_congr
      intro call called
      rw [← (answers call called).subjects_fst, List.map_map]
      rfl
    rw [ids, List.nodup_iff_count_le_one]
    intro id
    have few := account.ids.count_le id
    have kept := (joins.map Sigma.fst).count_eq id
    have drawn := List.nodup_iff_count_le_one.mp distinct id
    simp only [List.map_append, List.count_append] at kept
    omega
  case complete =>
    intro call called other
    exact List.map_snd_zip ((answers call called).length other).le
  case owned =>
    intro subject member
    obtain ⟨request, now, wall, asked, flag⟩ := account.posts subject.1 (settledIn subject member)
    obtain ⟨call, called, answered⟩ := List.mem_flatMap.mp member
    obtain ⟨response, sent⟩ := target_eq_some ((answers call called).target answered)
    exact ⟨_, request, now, wall, response, asked, flag ▸ sent⟩
  case unknown =>
    intro connectionId absent
    constructor
    · intro sdp
      rw [handle, answer, settle_unknown absent]
      rfl
    · intro reason
      rw [handle, reject, settle_unknown absent]
      rfl
  case limited => exact limit_run fresh checkable (Nat.zero_le _)

def plainTools : JoinTools where
  parseIp _ := none
  crates := lastExpCrates
  withAdvertisedCandidates sdp _ := sdp

def joinRequest : Request String := ⟨⟨"POST", "/v1/join/1234", .http11, []⟩, "v=0"⟩

-- one join of connection 0 that is answered, and one of connection 1 that goes with it
def twoJoins : List HttpSignalerInput :=
  [.connected 0 (.v4 0xc0a80001 5000), .connected 1 (.v4 0xc0a80002 5000),
    .request 0 joinRequest 0 .unixEpoch 7, .request 1 joinRequest 0 .unixEpoch 8, .answer 7 "v=0", .closed 1]

theorem two_joins_accounted :
    Accounts plainTools { tokenTrust := none } twoJoins
        (run (record plainTools) (new { tokenTrust := none }) twoJoins).1
        (run (record plainTools) (new { tokenTrust := none }) twoJoins).2 ∧
      responsesTo 0 ((run (record plainTools) (new { tokenTrust := none }) twoJoins).2.flatMap Call.produced) = 1 ∧
      joinsOn 1 ((run (record plainTools) (new { tokenTrust := none }) twoJoins).2.flatMap Call.discarded) = 1 :=
  ⟨requests_answered_once plainTools { tokenTrust := none } twoJoins (by decide) (by decide +kernel), by decide +kernel,
    by decide +kernel⟩

def lastExpJoin : HttpSignalerInput :=
  .request 0 ⟨⟨"POST", "/v1/join/1234", .http11, []⟩, lastExpSdp⟩ 0 .unixEpoch 7

/-- Under the default trust the check of an unsigned token with the largest `exp` panics: the request has no
response, waits for none, and no connection was closed. -/
theorem last_exp_join_unanswered :
    let inputs := [.connected 0 (.v4 0xc0a80001 5000), lastExpJoin]
    let ran := run (record plainTools) (new {}) inputs
    (((new {}).connected 0 (.v4 0xc0a80001 5000)).handle plainTools lastExpJoin).2 = .aborted ∧
      (inputs.filterMap HttpSignalerInput.joinId).Nodup ∧ requestsOn 0 inputs = 1 ∧
      responsesTo 0 (ran.2.flatMap Call.produced) = 0 ∧ joinsOn 0 ran.1.pending.entries = 0 ∧
      joinsOn 0 (ran.2.flatMap Call.discarded) = 0 := by
  decide +kernel

end HttpSignaler

end Nethernet
