import Nethernet.Session.Answers

/-! The events of a session over all the calls made to it.

What was polled and what still waits in the queue are one sequence of outputs. -/

set_option autoImplicit false

namespace Nethernet
open Foundation

variable {Candidate : Type} {rtc : Rtc Candidate}

inductive SessionCall (Candidate : Type) where
  | handle (input : SessionInput Candidate)
  | poll

/-- A session, with the outputs that were polled from it. -/
structure WatchedSession (rtc : Rtc Candidate) where
  session : Session rtc
  taken : List SessionOutput

variable {watched : WatchedSession rtc} {session before : Session rtc} {new : List SessionOutput}

namespace WatchedSession

def start (localAddr : SocketAddr) (isControlling : Bool) (ice : rtc.Agent) (certificate : rtc.Certificate)
    (within : Duration) : WatchedSession rtc :=
  ⟨(Session.new localAddr isControlling ice certificate).setEstablishDeadline within, []⟩

def outputs (watched : WatchedSession rtc) : List SessionOutput := watched.taken ++ watched.session.output

def step (watched : WatchedSession rtc) : SessionCall Candidate → WatchedSession rtc × Except ProtocolError Unit
  | .handle input => ({ watched with session := (watched.session.step input).1 }, (watched.session.step input).2)
  | .poll => (⟨watched.session.poll.1, watched.taken ++ watched.session.poll.2.toList⟩, .ok ())

theorem poll_eq (watched : WatchedSession rtc) : ∃ output, (watched.step .poll).1.session =
    { watched.session with output := output } ∧ (watched.step .poll).1.outputs = watched.outputs := by
  unfold step Session.poll outputs
  cases present : watched.session.output with
  | nil => exact ⟨[], by simp [← present], by simp [present]⟩
  | cons first rest => exact ⟨rest, rfl, by simp⟩

/-! ## What every call keeps -/

/-- The flags count the events, readiness means two open channels, and nothing is open before DTLS. -/
structure Sound (watched : WatchedSession rtc) : Prop where
  counted : ∀ event, watched.outputs.count (.event event) = (watched.session.channels.emitted event).toNat
  opened : watched.session.channels.readyEmitted = true → watched.session.channels.bothOpen = true
  anchored : watched.session.Anchored

theorem sound_start (localAddr : SocketAddr) (isControlling : Bool) (ice : rtc.Agent) (certificate : rtc.Certificate)
    (within : Duration) : (start localAddr isControlling ice certificate within).Sound := by
  constructor
  case counted =>
    intro event
    cases event <;> rfl
  case opened =>
    intro impossible
    cases impossible
  case anchored =>
    intro _
    refine ⟨rfl, ?_⟩
    intro channel
    cases channel <;> rfl

theorem Sound.mem_iff (sound : watched.Sound) (event : SessionEvent) :
    .event event ∈ watched.outputs ↔ watched.session.channels.emitted event = true := by
  rw [← List.count_pos_iff, sound.counted]
  cases watched.session.channels.emitted event with
  | true => exact ⟨fun _ => rfl, fun _ => Nat.one_pos⟩
  | false => exact ⟨fun impossible => absurd impossible (Nat.lt_irrefl 0), fun impossible => by cases impossible⟩

/-- A call either returns without an error and is concluded, or announces no readiness. -/
theorem handle_cases (anchored : session.Anchored) (input : SessionInput Candidate) :
    ((session.step input).2 = .ok () ∧ session.Concluded (session.step input).1) ∨
      ((∃ error, (session.step input).2 = .error error) ∧ session.Unready (session.step input).1) := by
  have result := Session.triple_handle anchored input session ⟨refl_of Session.Advances session, rfl⟩
  unfold Session.step
  cases outcome : Session.handle input session with
  | mk after value =>
    rw [outcome] at result
    cases value with
    | ok value => exact .inl ⟨rfl, result⟩
    | error e => exact .inr ⟨⟨e, rfl⟩, result⟩

theorem advances_handle (anchored : session.Anchored) (input : SessionInput Candidate) :
    session.Advances (session.step input).1 := by
  rcases handle_cases anchored input with ⟨-, concluded⟩ | ⟨-, unready⟩
  · exact concluded.advances
  · exact unready.1

theorem bothOpen_mono {after : Session rtc} (advances : before.Advances after)
    (opened : before.channels.bothOpen = true) : after.channels.bothOpen = true := by
  rw [Channels.bothOpen_iff] at opened ⊢
  exact fun channel => advances.opened channel (opened channel)

theorem Sound.step (sound : watched.Sound) (call : SessionCall Candidate) : (watched.step call).1.Sound := by
  cases call with
  | poll =>
    obtain ⟨output, polled, same⟩ := poll_eq watched
    constructor
    case counted =>
      intro event
      rw [same, polled]
      exact sound.counted event
    case opened =>
      rw [polled]
      exact sound.opened
    case anchored =>
      rw [polled]
      exact sound.anchored
  | handle input =>
    have advances := advances_handle sound.anchored input
    constructor
    case counted =>
      intro event
      have before := sound.counted event
      have emitted := advances.emitted event
      unfold outputs at before ⊢
      rw [List.count_append] at before ⊢
      show List.count (.event event) watched.taken + List.count (.event event) (watched.session.step input).1.output =
        ((watched.session.step input).1.channels.emitted event).toNat
      omega
    case opened =>
      intro ready
      rcases handle_cases sound.anchored input with ⟨-, concluded⟩ | ⟨-, unready⟩
      · rcases concluded.order with same | ⟨-, opened, -⟩
        · exact bothOpen_mono advances (sound.opened (same.symm.trans ready))
        · exact opened
      · exact bothOpen_mono advances (sound.opened (unready.2.symm.trans ready))
    case anchored => exact advances.anchored sound.anchored

theorem sound_run (sound : watched.Sound) (calls : List (SessionCall Candidate)) : (run step watched calls).1.Sound :=
  run_invariant step (fun _ call sound => sound.step call) sound calls

/-! ## The establish deadline -/

def setEstablishDeadline (watched : WatchedSession rtc) (within : Duration) : WatchedSession rtc :=
  { watched with session := watched.session.setEstablishDeadline within }

theorem step_setEstablishDeadline (ready : watched.session.channels.readyEmitted = true) (within : Duration)
    (call : SessionCall Candidate) :
    (watched.setEstablishDeadline within).step call =
      ((watched.step call).1.setEstablishDeadline within, (watched.step call).2) := by
  cases call with
  | handle input =>
    have timeless : watched.session.Timeless fun _ => within := .inr ready
    have same : Fallible.IgnoresAt (Session.recast [] fun _ => within) (Session.handle input) watched.session :=
      Session.recast_handle timeless input
    simp only [step, setEstablishDeadline, Session.step]
    rw [show Session.handle input (watched.session.setEstablishDeadline within) = _ from same]
    rfl
  | poll =>
    simp only [step, setEstablishDeadline, Session.poll, Session.setEstablishDeadline]
    split <;> rfl

theorem ready_step (sound : watched.Sound) (ready : watched.session.channels.readyEmitted = true)
    (call : SessionCall Candidate) : (watched.step call).1.session.channels.readyEmitted = true := by
  cases call with
  | handle input => exact (advances_handle sound.anchored input).emitted_mono .ready ready
  | poll =>
    obtain ⟨output, polled, -⟩ := poll_eq watched
    rw [polled]
    exact ready

/-- A ready session goes on the same way whatever its deadline is. -/
theorem outputs_setEstablishDeadline (sound : watched.Sound) (ready : watched.session.channels.readyEmitted = true)
    (within : Duration) (calls : List (SessionCall Candidate)) :
    (run step (watched.setEstablishDeadline within) calls).1.outputs = (run step watched calls).1.outputs := by
  induction calls generalizing watched with
  | nil => rfl
  | cons call rest ih =>
    rw [run_cons, run_cons, step_setEstablishDeadline ready within call]
    exact ih (sound.step call) (ready_step sound ready call)

structure Timed (within : Duration) (watched : WatchedSession rtc) : Prop where
  sound : watched.Sound
  unchanged : watched.session.establishWithin = within

theorem Timed.step {within : Duration} (timed : watched.Timed within) (call : SessionCall Candidate) :
    (watched.step call).1.Timed within := by
  refine ⟨timed.sound.step call, ?_⟩
  cases call with
  | handle input => exact (advances_handle timed.sound.anchored input).within.trans timed.unchanged
  | poll =>
    obtain ⟨output, polled, -⟩ := poll_eq watched
    rw [polled]
    exact timed.unchanged

theorem timed_run (sound : watched.Sound) (calls : List (SessionCall Candidate)) :
    (run WatchedSession.step watched calls).1.Timed watched.session.establishWithin :=
  run_invariant WatchedSession.step (fun _ call timed => timed.step call) ⟨sound, rfl⟩ calls

/-- The time of the first description in a run that ICE took. -/
def firstDescription (watched : WatchedSession rtc) : List (SessionCall Candidate) → Option Instant
  | [] => none
  | .poll :: rest => firstDescription (watched.step .poll).1 rest
  | .handle input :: rest =>
    (watched.session.describedAt input).or (firstDescription (watched.step (.handle input)).1 rest)

theorem started_run (watched : WatchedSession rtc) (calls : List (SessionCall Candidate)) :
    (run step watched calls).1.session.establishStarted =
      watched.session.establishStarted.or (watched.firstDescription calls) := by
  induction calls generalizing watched with
  | nil => exact Option.or_none.symm
  | cons call rest ih =>
    rw [run_cons]
    dsimp only
    rw [ih]
    cases call with
    | poll =>
      obtain ⟨output, polled, -⟩ := poll_eq watched
      rw [polled]
      rfl
    | handle input =>
      show (watched.session.step input).1.establishStarted.or _ = _
      rw [Session.started_handle, Option.or_assoc]
      rfl

/-- No call moves the deadline. -/
theorem establishDeadline_run (sound : watched.Sound) {deadline later : Instant}
    (found : watched.session.establishDeadline = some deadline) (calls : List (SessionCall Candidate))
    (still : (run step watched calls).1.session.establishDeadline = some later) : later = deadline := by
  unfold Session.establishDeadline at found still
  split at found
  · cases found
  · split at still
    · cases still
    · obtain ⟨since, started, rfl⟩ := Option.map_eq_some_iff.mp found
      rw [started_run, started, (timed_run sound calls).unchanged] at still
      exact (Option.some.inj still).symm

/-- In a session that is given any calls, readiness is announced at most once and only with both channels
open, failure at most once; a ready session goes on the same way whatever its deadline is; no call moves the
deadline; and a timeout that returns at or after the deadline of the first description that ICE took leaves
one of the two announced. -/
theorem establishment_protocol (localAddr : SocketAddr) (isControlling : Bool) (ice : rtc.Agent)
    (certificate : rtc.Certificate) (within : Duration) (calls : List (SessionCall Candidate)) :
    let begin : WatchedSession rtc := start localAddr isControlling ice certificate within
    let watched := (run step begin calls).1
    watched.outputs.count (.event .ready) ≤ 1 ∧
    (.event .ready ∈ watched.outputs → ∀ channel, (watched.session.channels.streamId channel).isSome = true) ∧
    watched.outputs.count (.event .failed) ≤ 1 ∧
    (.event .ready ∈ watched.outputs → ∀ other later,
      (run step (watched.setEstablishDeadline other) later).1.outputs = (run step watched later).1.outputs) ∧
    (∀ later deadline postponed, watched.session.establishDeadline = some deadline →
      (run step watched later).1.session.establishDeadline = some postponed → postponed ≤ deadline) ∧
    ∀ first now, begin.firstDescription calls = some first → first + within ≤ now →
      (watched.step (.handle (.timeout now))).2 = .ok () →
      .event .ready ∈ (watched.step (.handle (.timeout now))).1.outputs ∨
        .event .failed ∈ (watched.step (.handle (.timeout now))).1.outputs := by
  intro begin watched
  have began : begin.Sound := sound_start localAddr isControlling ice certificate within
  have sound : watched.Sound := sound_run began calls
  refine ⟨?_, ?_, ?_, ?_, ?_, ?_⟩
  · rw [sound.counted]
    exact Bool.toNat_le _
  · intro ready
    rw [sound.mem_iff] at ready
    exact Channels.bothOpen_iff.mp (sound.opened ready)
  · rw [sound.counted]
    exact Bool.toNat_le _
  · intro ready other later
    rw [sound.mem_iff] at ready
    exact outputs_setEstablishDeadline sound ready other later
  · intro later deadline postponed found still
    exact Nat.le_of_eq (establishDeadline_run sound found later still)
  · intro first now described due succeeded
    have next := sound.step (.handle (.timeout now))
    rw [next.mem_iff, next.mem_iff]
    have judged := (Session.triple_judged now).ok trivial
      (show Session.handleTimeout now watched.session = ((watched.session.step (.timeout now)).1, .ok ()) by
        rw [← succeeded]
        rfl)
    have advances := advances_handle sound.anchored (.timeout now)
    have started : watched.session.establishStarted = some first := by
      rw [started_run]
      exact described
    apply judged first (advances.started first started)
    rw [advances.within, (timed_run began calls).unchanged]
    exact due

/-- An offer at time zero that nothing follows has failed by its deadline. -/
theorem unanswered_offer_fails :
    let begin : WatchedSession Session.quietRtc := start (.v4 0x7f000001 8) false () () 5
    let watched := (run step begin [.handle Session.offered, .poll]).1
    begin.firstDescription [.handle Session.offered, .poll] = some 0 ∧
    (watched.step (.handle (.timeout 5))).2 = .ok () ∧
    (.event .ready ∈ (watched.step (.handle (.timeout 5))).1.outputs ∨
      .event .failed ∈ (watched.step (.handle (.timeout 5))).1.outputs) := by
  intro begin watched
  have described : begin.firstDescription [.handle Session.offered, .poll] = some 0 := by decide +kernel
  have succeeded : (watched.step (.handle (.timeout 5))).2 = .ok () := by decide +kernel
  have protocol := @establishment_protocol _ Session.quietRtc (.v4 0x7f000001 8) false () () 5
    [.handle Session.offered, .poll]
  exact ⟨described, succeeded, protocol.2.2.2.2.2 0 5 described (Nat.le_refl 5) succeeded⟩

/-! ## Readiness after a failure -/

/-- No readiness is announced behind a failure. -/
def FailedForGood (outputs : List SessionOutput) : Prop :=
  outputs.Pairwise fun earlier later => ¬ (earlier = .event .failed ∧ later = .event .ready)

theorem failedForGood_append {outputs : List SessionOutput} (unready : .event .ready ∉ new) :
    FailedForGood (outputs ++ new) ↔ FailedForGood outputs := by
  have absent (output : SessionOutput) (member : output ∈ new) : output ≠ .event .ready := by
    rintro rfl
    exact unready member
  unfold FailedForGood
  rw [List.pairwise_append]
  constructor
  · exact fun whole => whole.1
  · intro first
    refine ⟨first, ?_, fun _ _ later member both => absent later member both.2⟩
    exact List.pairwise_of_forall_mem_list fun _ _ later member both => absent later member both.2

theorem failedForGood_ready {earlier later : List SessionOutput} (traffic : ∀ output ∈ later, output.isTraffic = true) :
    FailedForGood (earlier ++ .event .ready :: later) ↔ FailedForGood earlier ∧ .event .failed ∉ earlier := by
  have unready : .event .ready ∉ later := fun member => by cases traffic _ member
  rw [List.append_cons, failedForGood_append unready]
  unfold FailedForGood
  rw [List.pairwise_append]
  constructor
  · rintro ⟨first, -, across⟩
    exact ⟨first, fun member => across _ member _ (List.mem_singleton.mpr rfl) ⟨rfl, rfl⟩⟩
  · rintro ⟨first, unfailed⟩
    refine ⟨first, List.pairwise_singleton _ _, ?_⟩
    rintro output member _ _ ⟨rfl, -⟩
    exact unfailed member

/-- A call that opens the last channel, of a session whose failure was announced, or whose ICE or SCTP layer
reports a loss to the same call. -/
def OpensLate (watched : WatchedSession rtc) : SessionCall Candidate → Prop
  | .poll => False
  | .handle input => watched.session.channels.readyEmitted = false ∧
    ∃ before now begun, Session.beforePump input watched.session = (before, .ok (some now)) ∧
      Session.startLayers now before = (begun, .ok ()) ∧ begun.Unhindered now ∧ (∀ channel, begun.Opens now channel) ∧
      (watched.session.channels.failedEmitted = true ∨ before.iceLost = true ∨ begun.sctpLost = true)

-- what such a call leaves behind
def ReadyLate (watched : WatchedSession rtc) (input : SessionInput Candidate) : Prop :=
  (watched.session.step input).2 = .ok () ∧ watched.session.channels.readyEmitted = false ∧
    (watched.session.step input).1.channels.failedEmitted = true ∧
    (watched.session.step input).1.channels.bothOpen = true

theorem pumped_late {begun next : Session rtc} {input : SessionInput Candidate} {now : Instant} {failed : Bool}
    (first : Session.beforePump input session = (before, .ok (some now)))
    (started : Session.startLayers now before = (begun, .ok ()))
    (pumped : Session.pumpSctp now begun = (next, .ok failed)) :
    let after := (next.conclude now failed).afterPump input
    (after.channels.failedEmitted = true ∧ after.channels.bothOpen = true) ↔ (∀ channel, begun.Opens now channel) ∧
      (session.channels.failedEmitted = true ∨ before.iceLost = true ∨ begun.sctpLost = true) := by
  intro after
  obtain ⟨lost, opens⟩ := Session.pumpSctp_ok pumped
  have opened : next.channels.bothOpen = true ↔ ∀ channel, begun.Opens now channel := by
    rw [Channels.bothOpen_iff]
    exact forall_congr' opens
  have earlier : before.channels.failedEmitted = session.channels.failedEmitted := by
    have plain := Session.plain_beforePump input session
    rw [first] at plain
    exact plain.flags .failed
  have polled := Session.failedEmitted_startLayers now before
  rw [started, earlier] at polled
  have kept := Session.failedEmitted_pumpSctp now begun
  rw [pumped] at kept
  rw [Session.channels_afterPump, Session.bothOpen_conclude, opened, and_comm]
  refine and_congr_right fun all => ?_
  rw [Session.failedEmitted_conclude_of_open (opened.mpr all), kept, polled, lost, Bool.or_eq_true, Bool.or_eq_true, or_assoc]

theorem readyLate_iff (sound : watched.Sound) (input : SessionInput Candidate) :
    watched.ReadyLate input ↔ watched.OpensLate (.handle input) := by
  constructor
  · rintro ⟨succeeded, unready, late⟩
    refine ⟨unready, ?_⟩
    have handled : Session.handle input watched.session = ((watched.session.step input).1, .ok ()) := Prod.ext rfl succeeded
    rcases Session.handle_ok_iff.mp handled with kept | ⟨before, now, pumped, first, second, rest⟩
    · rw [Session.closed_unpumped sound.anchored kept] at late
      cases late.2
    · obtain ⟨begun, next, failed, started, ran, rfl⟩ := Session.pump_ok_iff.mp second
      rw [← rest] at late
      exact ⟨before, now, begun, first, started, Session.succeeds_pumpSctp.mp ⟨failed, by rw [ran]⟩,
        (pumped_late first started ran).mp late⟩
  · rintro ⟨unready, before, now, begun, first, started, unhindered, late⟩
    obtain ⟨failed, ran⟩ := Session.succeeds_pumpSctp.mpr unhindered
    have pumped : Session.pumpSctp now begun = ((Session.pumpSctp now begun).1, .ok failed) := Prod.ext rfl ran
    have handled := Session.handle_ok_iff.mpr (.inr ⟨before, now, _, first,
      Session.pump_ok_iff.mpr ⟨begun, _, failed, started, pumped, rfl⟩, rfl⟩)
    rw [ReadyLate, Session.step, handled]
    exact ⟨rfl, unready, (pumped_late first started pumped).mpr late⟩

theorem not_ready_of_same {after : Session rtc} (advances : before.Advances after)
    (same : after.channels.readyEmitted = before.channels.readyEmitted) (grown : after.output = before.output ++ new) :
    .event .ready ∉ new := by
  have emitted := advances.emitted .ready
  rw [grown, List.count_append, show after.channels.emitted .ready = before.channels.emitted .ready from same] at emitted
  exact List.count_eq_zero.mp (by omega)

theorem failedForGood_step (sound : watched.Sound) (call : SessionCall Candidate) :
    FailedForGood (watched.step call).1.outputs ↔ FailedForGood watched.outputs ∧ ¬ watched.OpensLate call := by
  cases call with
  | poll =>
    obtain ⟨output, -, same⟩ := poll_eq watched
    rw [same]
    exact (and_iff_left not_false).symm
  | handle input =>
    obtain ⟨new, grown⟩ := (advances_handle sound.anchored input).output
    -- without a new readiness nothing changes
    have unready (same : (watched.session.step input).1.channels.readyEmitted = watched.session.channels.readyEmitted) :
        FailedForGood (watched.step (.handle input)).1.outputs ↔ FailedForGood watched.outputs := by
      have absent := not_ready_of_same (advances_handle sound.anchored input) same grown.symm
      show FailedForGood (watched.taken ++ (watched.session.step input).1.output) ↔ _
      rw [← grown, ← List.append_assoc]
      exact failedForGood_append absent
    rcases handle_cases sound.anchored input with ⟨succeeded, concluded⟩ | ⟨⟨error, failed⟩, refused⟩
    · rcases concluded.order with same | ⟨fresh, opened, earlier, later, outputs, ⟨middle, begun⟩, traffic⟩
      · rw [unready same, iff_self_and]
        intro _ opensLate
        obtain ⟨-, was, -, opened⟩ := (readyLate_iff sound input).mpr opensLate
        rw [concluded.complete opened, was] at same
        cases same
      · -- the failure is announced before the readiness, if at all
        have advances := concluded.advances
        have ready := advances.emitted .ready
        have failures := advances.emitted .failed
        have before := sound.counted .failed
        have complete : (watched.session.step input).1.channels.emitted .ready = true := concluded.complete opened
        have none : later.count (.event .failed) = 0 :=
          List.count_eq_zero.mpr fun member => by cases traffic _ member
        have unannounced : .event .ready ∉ middle := by
          rw [outputs, ← begun, show watched.session.channels.emitted .ready = false from fresh, complete,
            List.count_append, List.count_append, List.count_cons_self, Bool.toNat_false, Bool.toNat_true] at ready
          exact List.count_eq_zero.mp (by omega)
        have late : .event .failed ∈ watched.taken ++ (watched.session.output ++ middle) ↔
            (watched.session.step input).1.channels.failedEmitted = true := by
          rw [outputs, List.count_append, List.count_cons_of_ne (by decide), none, ← begun] at failures
          unfold WatchedSession.outputs at before
          rw [List.count_append] at before
          have total : (watched.taken ++ (watched.session.output ++ middle)).count (.event .failed) =
              ((watched.session.step input).1.channels.failedEmitted).toNat := by
            rw [List.count_append]
            show _ = ((watched.session.step input).1.channels.emitted .failed).toNat
            omega
          rw [← List.count_pos_iff, total]
          cases (watched.session.step input).1.channels.failedEmitted <;> simp
        show FailedForGood (watched.taken ++ (watched.session.step input).1.output) ↔ _
        rw [outputs, ← begun, ← List.append_assoc, failedForGood_ready traffic, ← List.append_assoc,
          failedForGood_append unannounced, List.append_assoc, late, ← readyLate_iff sound]
        exact and_congr_right fun _ =>
          ⟨fun unfailed both => unfailed both.2.2.1, fun calm failed => calm ⟨succeeded, fresh, failed, opened⟩⟩
    · rw [unready refused.2, iff_self_and]
      intro _ opensLate
      have succeeded := ((readyLate_iff sound input).mpr opensLate).1
      rw [failed] at succeeded
      cases succeeded

/-- No readiness follows a failure exactly when no call opens the last channel that late. -/
theorem ready_after_failed_iff (localAddr : SocketAddr) (isControlling : Bool) (ice : rtc.Agent)
    (certificate : rtc.Certificate) (within : Duration) (calls : List (SessionCall Candidate)) :
    FailedForGood (run step (start localAddr isControlling ice certificate within : WatchedSession rtc) calls).1.outputs ↔
      Along step (fun watched call => ¬ watched.OpensLate call) (start localAddr isControlling ice certificate within)
        calls := by
  have general (watched : WatchedSession rtc) (sound : watched.Sound) :
      FailedForGood (run step watched calls).1.outputs ↔
        FailedForGood watched.outputs ∧ Along step (fun watched call => ¬ watched.OpensLate call) watched calls := by
    induction calls generalizing watched with
    | nil => exact (and_iff_left trivial).symm
    | cons call rest ih =>
      rw [run_cons]
      dsimp only
      rw [ih _ (sound.step call), failedForGood_step sound, and_assoc]
      rfl
  rw [general _ (sound_start localAddr isControlling ice certificate within)]
  exact and_iff_right List.Pairwise.nil

end WatchedSession

/-! ### A peer whose packets are spelled out -/

namespace Session

-- a packet holds one message: its stream, whether it is a DCEP message, and its data
def arrivalsOf : Bytes → List Arrival
  | stream :: 0 :: data => [.announce stream.toUInt16, .message stream.toUInt16 ⟨.dcep, data⟩]
  | stream :: _ :: data => [.announce stream.toUInt16, .message stream.toUInt16 ⟨.binary, data⟩]
  | _ => [.event .associationLost]

/-- Stacks on a path that is up from the start, with every message of the peer in a packet of its own. -/
def plainRtc : Rtc Unit := { quietRtc with associationEvent := fun _ data => ((), arrivalsOf data) }

def openReliable : Bytes := 1 :: 0 :: marshalDcep (.dataChannelOpen Dcep.reliableOpen)
def openUnreliable : Bytes := 3 :: 0 :: marshalDcep (.dataChannelOpen Dcep.unreliableOpen)

end Session

namespace WatchedSession

def packetAt (data : Bytes) (now : Instant) : SessionCall Unit := .handle (.packet data (.v4 0x7f000001 7) now)

/-- The channels open one nanosecond after the deadline. -/
theorem ready_behind_failed :
    (run step (start (.v4 0x7f000001 8) false () () 5 : WatchedSession Session.plainRtc)
      [.handle Session.offered, .handle (.timeout 5), packetAt Session.openReliable 6,
        packetAt Session.openUnreliable 6]).1.outputs.filter SessionOutput.isEvent =
      [.event .failed, .event .ready] := by
  decide +kernel

end WatchedSession

end Nethernet
