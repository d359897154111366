import Nethernet.Tokio.SessionTask

/-! What a driven session hands to the application.

The connection inside the task is the connection fed with the inputs it was handed, apart from
the outputs already performed; and of these outputs each reliable message is delivered once and in
order, whatever the application does in between. -/

set_option autoImplicit false

namespace Nethernet
open Foundation

namespace SessionOutput

def sends (outputs : List SessionOutput) : List (Bytes × SocketAddr) :=
  outputs.filterMap fun
    | .send data addr => some (data, addr)
    | _ => none

theorem sends_append (outputs more : List SessionOutput) : sends (outputs ++ more) = sends outputs ++ sends more :=
  List.filterMap_append

end SessionOutput

namespace Connection
variable {crates : WebrtcCrates} {rtc : Rtc crates.Candidate}

theorem behind_append (connection : Connection rtc) (earlier later : List SessionOutput) :
    connection.behind (earlier ++ later) = (connection.behind later).behind earlier := by
  simp only [behind, Session.behind, List.append_assoc]

theorem fed_behind (earlier : List SessionOutput) (connection : Connection rtc) (inputs : List ConnectionInput) :
    (connection.behind earlier).fed inputs = (connection.fed inputs).behind earlier := by
  induction inputs generalizing connection with
  | nil => rfl
  | cons input inputs ih =>
    show ((connection.behind earlier).handle input).1.fed inputs = _
    rw [handle_behind]
    exact ih (connection.handle input).1

end Connection

variable {handed : Option ConnectionInput} {performed : List SessionOutput} {output : Option SessionOutput}

namespace Tokio
open SessionOutput

/-- The message that waits for room. -/
def TaskPhase.held : TaskPhase → List Bytes
  | .sending data => [data]
  | .selecting | .polling | .ended => []

-- the input a branch hands to the connection; the timer only does so once it is due
def Selected.input (wake : Instant) : Selected → Option ConnectionInput
  | .received data source now => some (.packet data source now)
  | .command (.send channel data) now => some (.send channel data now)
  | .command (.signal signal) now => some (.signal signal now)
  | .timer now => if now < wake then none else some (.timeout now)
  | _ => none

namespace SessionTask
variable {crates : WebrtcCrates} {rtc : Rtc crates.Candidate}

def handing (task : SessionTask rtc) : TaskEvent → Option ConnectionInput
  | .select selected => if task.phase = .selecting ∧ task.closeToken = false then selected.input task.wake else none
  | _ => none

def performing (task : SessionTask rtc) : TaskEvent → Option SessionOutput
  | .poll _ => if task.phase = .polling then task.connection.session.output.head? else none
  | _ => none

/-! ## Frames -/

/-- Nothing that was delivered, sent or announced changes. -/
structure Frame (before after : SessionTask rtc) : Prop where
  packets : after.packets = before.packets
  unreliable : after.unreliable = before.unreliable
  sent : after.sent = before.sent
  ready : after.readyPending = before.readyPending

variable (task : SessionTask rtc)

theorem Frame.refl : Frame task task := ⟨rfl, rfl, rfl, rfl⟩

theorem frame_command (now : Instant) (command : Command) :
    Frame task (task.command now command).1 ∧ (task.command now command).1.phase = .polling ∧
      (task.command now command).1.connection =
        task.connection.fed ((Selected.command command now).input task.wake).toList := by
  cases command <;> exact ⟨⟨rfl, rfl, rfl, rfl⟩, rfl, rfl⟩

/-- A selected branch hands its input to the connection and leaves the loop or goes on to poll. -/
theorem select_cases (idle : task.phase = .selecting) (selected : Selected) :
    Frame task (task.select selected).1 ∧ (task.select selected).1.phase.held = [] ∧
      (task.select selected).1.connection = task.connection.fed (task.handing (.select selected)).toList := by
  cases token : task.closeToken with
  | true =>
    have left : (task.select selected).1 = task.finish := by simp only [select, token, if_true]
    rw [left, show task.handing (.select selected) = none from if_neg (by simp [token])]
    exact ⟨⟨rfl, rfl, rfl, rfl⟩, rfl, rfl⟩
  | false =>
    rw [show task.handing (.select selected) = selected.input task.wake from if_pos ⟨idle, token⟩]
    simp only [select, token, Bool.false_eq_true, if_false]
    cases selected with
    | closed => exact ⟨.refl task, by rw [idle]; rfl, rfl⟩
    | received data source now => exact ⟨⟨rfl, rfl, rfl, rfl⟩, rfl, rfl⟩
    | receiveFailed => exact ⟨⟨rfl, rfl, rfl, rfl⟩, rfl, rfl⟩
    | commandsClosed => exact ⟨⟨rfl, rfl, rfl, rfl⟩, rfl, rfl⟩
    | command command now =>
      obtain ⟨frame, polling, connection⟩ := task.frame_command now command
      exact ⟨frame, by rw [polling]; rfl, connection⟩
    | timer now =>
      by_cases early : now < task.wake
      · simp only [Selected.input, early, if_true]
        exact ⟨.refl task, by rw [idle]; rfl, rfl⟩
      · simp only [Selected.input, early, if_false]
        exact ⟨⟨rfl, rfl, rfl, rfl⟩, rfl, rfl⟩

/-- What a step can do, with the input it hands to the connection and the output it performs. -/
inductive Steps (task : SessionTask rtc) : Option ConnectionInput → Option SessionOutput → SessionTask rtc → Prop
  | stays : Steps task none none task
  | selects {input : Option ConnectionInput} {after : SessionTask rtc} (idle : task.phase = .selecting)
      (frame : Frame task after) (unheld : after.phase.held = [])
      (connection : after.connection = task.connection.fed input.toList) : Steps task input none after
  | settles (polling : task.phase = .polling) (empty : task.connection.session.output = []) :
      Steps task none none task.settle
  | performs {output : SessionOutput} {rest : List SessionOutput} (now : Instant) (polling : task.phase = .polling)
      (queued : task.connection.session.output = output :: rest) :
      Steps task none (some output) ((task.polled rest).perform now output)
  | delivers {data : Bytes} (sending : task.phase = .sending data) : Steps task none none (task.deliver data)
  | takes (channel : Channel) : Steps task none none (task.onChannel channel Mailbox.take)
  | hangsUp (channel : Channel) : Steps task none none (task.onChannel channel Mailbox.hangUp)
  | closes : Steps task none none { task with closeToken := true }
  | aborts : Steps task none none task.finish

theorem steps (task : SessionTask rtc) (event : TaskEvent) :
    Steps task (task.handing event) (task.performing event) (task.step event).1 := by
  cases event with
  | select selected =>
    cases phase : task.phase with
    | selecting =>
      obtain ⟨frame, unheld, connection⟩ := task.select_cases phase selected
      simp only [step, phase]
      exact .selects phase frame unheld connection
    | polling => simpa [step, handing, performing, phase] using .stays
    | sending data => simpa [step, handing, performing, phase] using .stays
    | ended => simpa [step, handing, performing, phase] using .stays
  | poll now =>
    cases phase : task.phase with
    | selecting => simpa [step, handing, performing, phase] using .stays
    | ended => simpa [step, handing, performing, phase] using .stays
    | sending data => simpa [step, handing, performing, phase] using .delivers phase
    | polling =>
      simp only [step, handing, performing, phase, if_true, poll]
      cases queued : task.connection.session.output with
      | nil => exact .settles phase queued
      | cons output rest => exact .performs now phase queued
  | take channel => exact .takes channel
  | hangUp channel => exact .hangsUp channel
  | close => exact .closes
  | abort => exact .aborts

variable (data : Bytes)

theorem connection_deliver : (task.deliver data).connection = task.connection := by
  unfold deliver
  split <;> rfl

theorem connection_perform (now : Instant) (output : SessionOutput) :
    (task.perform now output).connection = task.connection := by
  cases output with
  | send data addr => rfl
  | event event => cases event <;> rfl
  | wait duration => rfl
  | message channel data =>
    cases channel with
    | reliable => exact connection_deliver task data
    | unreliable =>
      show (task.tryDeliver data).connection = _
      unfold tryDeliver
      split <;> rfl

/-- A step hands the connection at most one input, or performs at most its first output. -/
theorem Steps.connection {task after : SessionTask rtc} {performed : Option SessionOutput}
    (steps : Steps task handed performed after) :
    after.connection.behind performed.toList = task.connection.fed handed.toList := by
  cases steps with
  | selects _ _ _ connection => exact connection
  | performs now _ queued =>
    rw [connection_perform]
    simp only [polled, Connection.behind, Session.behind, Option.toList_some, List.singleton_append, ← queued]
    rfl
  | delivers => exact task.connection_deliver _
  | takes channel => cases channel <;> rfl
  | hangsUp channel => cases channel <;> rfl
  | _ => rfl

/-! ## Performing an output -/

/-- A message goes to a receiver that listens, or waits for its turn; otherwise the turn is over. -/
theorem deliver_cases :
    (task.packets.listening = true ∧
      (task.deliver data).packets.given ++ (task.deliver data).phase.held = task.packets.given ++ [data]) ∨
    (task.packets.listening = false ∧ (task.deliver data).packets = task.packets) := by
  unfold deliver
  split
  · rename_i packets posted
    obtain ⟨⟨listening, -⟩, -, given⟩ := Mailbox.post_eq_posted posted
    refine .inl ⟨listening, ?_⟩
    show packets.given ++ [] = _
    rw [List.append_nil, given]
  · rename_i full
    exact .inl ⟨(Mailbox.post_eq_full full).1, rfl⟩
  · rename_i closed
    exact .inr ⟨Mailbox.post_eq_closed closed, rfl⟩

theorem frame_deliver : (task.deliver data).unreliable = task.unreliable ∧
    (task.deliver data).sent = task.sent ∧ (task.deliver data).readyPending = task.readyPending := by
  unfold deliver
  split <;> exact ⟨rfl, rfl, rfl⟩

/-- A message that cannot be queued at once is dropped. -/
theorem tryDeliver_cases :
    ∃ unreliable, task.tryDeliver data = { task with unreliable := unreliable } ∧
      unreliable.listening = task.unreliable.listening ∧
      ((task.unreliable.queue.length < packetChannelCapacity ∧ unreliable.given = task.unreliable.given ++ [data]) ∨
        (unreliable = task.unreliable ∧
          (task.unreliable.listening = true → packetChannelCapacity ≤ task.unreliable.queue.length))) := by
  unfold tryDeliver
  split
  · rename_i unreliable posted
    obtain ⟨⟨before, after⟩, given⟩ := Mailbox.post_eq_posted posted
    exact ⟨unreliable, rfl, after.trans before.symm, .inl given⟩
  · rename_i full
    exact ⟨task.unreliable, rfl, rfl, .inr ⟨rfl, fun _ => (Mailbox.post_eq_full full).2⟩⟩
  · rename_i closed
    refine ⟨task.unreliable, rfl, rfl, .inr ⟨rfl, fun listening => ?_⟩⟩
    rw [Mailbox.post_eq_closed closed] at listening
    cases listening

theorem unreliable_perform (now : Instant) (output : SessionOutput) :
    (∃ data, output = .message .unreliable data ∧ task.perform now output = task.tryDeliver data) ∨
      ((∀ data, output ≠ .message .unreliable data) ∧ messages .unreliable [output] = [] ∧
        (task.perform now output).unreliable = task.unreliable) := by
  cases output with
  | send data addr => exact .inr ⟨nofun, rfl, rfl⟩
  | wait duration => exact .inr ⟨nofun, rfl, rfl⟩
  | event event => cases event <;> exact .inr ⟨nofun, rfl, rfl⟩
  | message channel data =>
    cases channel with
    | reliable => exact .inr ⟨nofun, rfl, (task.frame_deliver data).1⟩
    | unreliable => exact .inl ⟨data, rfl, rfl⟩

end SessionTask

/-! ## Runs -/

/-- A task, with the inputs it handed to its connection and the outputs it performed. -/
structure WatchedTask {crates : WebrtcCrates} (rtc : Rtc crates.Candidate) where
  task : SessionTask rtc
  handed : List ConnectionInput
  performed : List SessionOutput

namespace WatchedTask
variable {crates : WebrtcCrates} {rtc : Rtc crates.Candidate}

def spawn (connection : Connection rtc) (now : Instant) : WatchedTask rtc := ⟨.spawn connection now, [], []⟩

def step (watched : WatchedTask rtc) (event : TaskEvent) : WatchedTask rtc × CommandReply :=
  (⟨(watched.task.step event).1, watched.handed ++ (watched.task.handing event).toList,
    watched.performed ++ (watched.task.performing event).toList⟩, (watched.task.step event).2)

/-- The connection is the one fed with what was handed to it, apart from the outputs performed. -/
def Refines (connection : Connection rtc) (watched : WatchedTask rtc) : Prop :=
  watched.task.connection.behind watched.performed = connection.fed watched.handed

variable {watched : WatchedTask rtc}

theorem Refines.step {connection : Connection rtc} (refines : watched.Refines connection) (event : TaskEvent) :
    (watched.step event).1.Refines connection := by
  show (watched.task.step event).1.connection.behind (watched.performed ++ (watched.task.performing event).toList) =
    connection.fed (watched.handed ++ (watched.task.handing event).toList)
  rw [Connection.behind_append, (watched.task.steps event).connection, ← Connection.fed_behind, refines,
    Connection.fed_append]

/-! ## What is delivered -/

/-- A task that performed these outputs has delivered, sent and announced what is among them. -/
structure Delivers (task : SessionTask rtc) (performed : List SessionOutput) : Prop where
  given : task.packets.given <+: messages .reliable performed
  complete : task.packets.listening = true → task.phase ≠ .ended →
    messages .reliable performed = task.packets.given ++ task.phase.held
  unreliable : task.unreliable.given.Sublist (messages .unreliable performed)
  sent : task.sent = sends performed
  ready : task.readyPending = false ↔ .event .ready ∈ performed
  failed : .event .failed ∈ performed → task.phase = .ended

section
variable {task after : SessionTask rtc}

theorem delivers_spawn (connection : Connection rtc) (now : Instant) : Delivers (.spawn connection now) [] where
  given := List.nil_prefix
  complete _ _ := rfl
  unreliable := List.Sublist.refl _
  sent := rfl
  ready := by simp [SessionTask.spawn]
  failed impossible := by cases impossible

theorem Delivers.of_frame (delivers : Delivers task performed) (frame : task.Frame after)
    (phase : after.phase ≠ .ended → task.phase ≠ .ended ∧ after.phase.held = task.phase.held) :
    Delivers after performed where
  given := by
    rw [frame.packets]
    exact delivers.given
  complete listening running := by
    rw [frame.packets] at listening ⊢
    rw [(phase running).2]
    exact delivers.complete listening (phase running).1
  unreliable := by
    rw [frame.unreliable]
    exact delivers.unreliable
  sent := frame.sent.trans delivers.sent
  ready := by
    rw [frame.ready]
    exact delivers.ready
  failed member := by
    by_contra running
    exact (phase running).1 (delivers.failed member)

-- one more output is performed, and a reliable message of it waits for room
theorem Delivers.add (delivers : Delivers task performed) (polling : task.phase = .polling) {output : SessionOutput}
    (packets : after.packets = task.packets) (held : after.phase.held = messages .reliable [output])
    (unreliable : after.unreliable.given.Sublist (task.unreliable.given ++ messages .unreliable [output]))
    (sent : after.sent = task.sent ++ sends [output])
    (ready : after.readyPending = false ↔ task.readyPending = false ∨ .event .ready = output)
    (failed : .event .failed = output → after.phase = .ended) : Delivers after (performed ++ [output]) where
  given := by
    rw [messages_append, packets]
    exact delivers.given.trans (List.prefix_append ..)
  complete listening _ := by
    rw [packets] at listening ⊢
    rw [messages_append, held, delivers.complete listening (by rw [polling]; nofun), polling]
    exact congrArg (· ++ _) (List.append_nil _)
  unreliable := by
    rw [messages_append]
    exact unreliable.trans (delivers.unreliable.append (List.Sublist.refl _))
  sent := by rw [sent, sends_append, delivers.sent]
  ready := by rw [ready, List.mem_append, List.mem_singleton, delivers.ready]
  failed member := by
    rcases List.mem_append.mp member with earlier | now
    · rw [delivers.failed earlier] at polling
      cases polling
    · exact failed (List.mem_singleton.mp now)

-- the message that waited for room is performed already
theorem Delivers.deliver (delivers : Delivers task performed) {data : Bytes} (sending : task.phase = .sending data) :
    Delivers (task.deliver data) performed := by
  have running : task.phase ≠ .ended := by
    rw [sending]
    nofun
  have complete (listening : task.packets.listening = true) :
      messages .reliable performed = task.packets.given ++ [data] := by
    rw [delivers.complete listening running, sending]
    rfl
  obtain ⟨unreliable, sent, ready⟩ := task.frame_deliver data
  constructor
  case given =>
    rcases task.deliver_cases data with ⟨listening, given⟩ | ⟨-, same⟩
    · rw [complete listening]
      exact ⟨_, given⟩
    · rw [same]
      exact delivers.given
  case complete =>
    intro listening _
    rcases task.deliver_cases data with ⟨heard, given⟩ | ⟨silent, same⟩
    · rw [complete heard]
      exact given.symm
    · rw [same, silent] at listening
      cases listening
  case unreliable => exact unreliable ▸ delivers.unreliable
  case sent => exact sent.trans delivers.sent
  case ready => exact ready ▸ delivers.ready
  case failed => exact fun member => absurd (delivers.failed member) running

theorem Delivers.perform (delivers : Delivers task performed) (polling : task.phase = .polling) (now : Instant)
    (output : SessionOutput) : Delivers (task.perform now output) (performed ++ [output]) := by
  have idle : task.phase.held = [] := by rw [polling]; rfl
  have unposted : task.unreliable.given.Sublist (task.unreliable.given ++ messages .unreliable [output]) :=
    List.sublist_append_left ..
  have unsent : task.sent = task.sent ++ [] := (List.append_nil _).symm
  cases output with
  | send data addr => exact delivers.add polling rfl idle unposted rfl (or_iff_left nofun).symm nofun
  | wait duration => exact delivers.add polling rfl idle unposted unsent (or_iff_left nofun).symm nofun
  | event event =>
    cases event with
    | ready => exact delivers.add polling rfl idle unposted unsent (iff_of_true rfl (.inr rfl)) nofun
    | failed => exact delivers.add polling rfl rfl unposted unsent (or_iff_left nofun).symm fun _ => rfl
  | message channel data =>
    cases channel with
    | reliable =>
      let waiting : SessionTask rtc := { task with phase := .sending data }
      have waits : Delivers waiting (performed ++ [.message .reliable data]) :=
        delivers.add polling rfl rfl unposted unsent (or_iff_left nofun).symm nofun
      exact waits.deliver rfl
    | unreliable =>
      obtain ⟨unreliable, tried, -, result⟩ := task.tryDeliver_cases data
      rw [show task.perform now (.message .unreliable data) = _ from tried]
      refine delivers.add polling rfl idle ?_ unsent (or_iff_left nofun).symm nofun
      rcases result with ⟨-, given⟩ | ⟨rfl, -⟩
      · exact given ▸ List.Sublist.refl _
      · exact unposted

-- the application takes from a queue, or drops its receiver
theorem Delivers.onChannel (delivers : Delivers task performed) (channel : Channel)
    {change : PacketChannel → PacketChannel} (given : ∀ mailbox, (change mailbox).given <+: mailbox.given)
    (complete : ∀ mailbox, (change mailbox).listening = true →
      mailbox.listening = true ∧ (change mailbox).given = mailbox.given) :
    Delivers (task.onChannel channel change) performed := by
  cases channel with
  | reliable =>
    refine { delivers with given := (given _).trans delivers.given, complete := fun listening running => ?_ }
    obtain ⟨heard, same⟩ := complete _ listening
    rw [show (task.onChannel .reliable change).packets.given = _ from same]
    exact delivers.complete heard running
  | unreliable => exact { delivers with unreliable := (given _).sublist.trans delivers.unreliable }

theorem Delivers.steps (delivers : Delivers task performed) (steps : task.Steps handed output after) :
    Delivers after (performed ++ output.toList) := by
  have quiet {next : SessionTask rtc} (holds : Delivers next performed) :
      Delivers next (performed ++ (none : Option SessionOutput).toList) := by
    rw [Option.toList_none, List.append_nil]
    exact holds
  cases steps with
  | performs now polling queued =>
    rename_i output rest
    have polled : Delivers (task.polled rest) performed :=
      ⟨delivers.given, delivers.complete, delivers.unreliable, delivers.sent, delivers.ready, delivers.failed⟩
    exact polled.perform polling now output
  | stays => exact quiet delivers
  | selects idle frame unheld _ =>
    refine quiet (delivers.of_frame frame fun _ => ?_)
    rw [idle]
    exact ⟨nofun, unheld⟩
  | settles polling _ =>
    have frame : task.Frame task.settle := ⟨rfl, rfl, rfl, rfl⟩
    refine quiet (delivers.of_frame frame fun _ => ?_)
    rw [polling]
    exact ⟨nofun, rfl⟩
  | delivers sending => exact quiet (delivers.deliver sending)
  | takes channel =>
    refine quiet (delivers.onChannel channel (fun mailbox => ?_) fun mailbox listening => ?_)
    · exact mailbox.given_take ▸ List.prefix_rfl
    · exact ⟨mailbox.listening_take ▸ listening, mailbox.given_take⟩
  | hangsUp channel =>
    refine quiet (delivers.onChannel channel (fun mailbox => ?_) fun mailbox listening => ?_)
    · rw [Mailbox.given_hangUp]
      exact mailbox.taken_prefix_given
    · cases listening
  | closes =>
    have frame : task.Frame { task with closeToken := true } := ⟨rfl, rfl, rfl, rfl⟩
    exact quiet (delivers.of_frame frame fun running => ⟨running, rfl⟩)
  | aborts =>
    have frame : task.Frame task.finish := ⟨rfl, rfl, rfl, rfl⟩
    exact quiet (delivers.of_frame frame fun running => absurd rfl running)

end

theorem delivers_run (connection : Connection rtc) (spawned : Instant) (events : List TaskEvent) :
    let watched := (run step (spawn connection spawned) events).1
    Delivers watched.task watched.performed := by
  have keeps (watched : WatchedTask rtc) (event : TaskEvent) (delivers : Delivers watched.task watched.performed) :
      Delivers (watched.step event).1.task (watched.step event).1.performed :=
    delivers.steps (watched.task.steps event)
  exact run_invariant step keeps (delivers_spawn connection spawned) events

/-- Whatever the task and the application do, in whatever order: the outputs of the connection, as if it had been
given the same inputs and never polled, are those performed and those still queued. Every datagram of them goes to
the socket once and in order. The application takes reliable messages in their order, each once; while it keeps its
receiver and the task runs, every one of them was taken, is in the bounded queue, waits for room or is still queued.
Readiness is announced exactly when it was put out, and a failure ends the task. -/
theorem reliable_messages_delivered (connection : Connection rtc) (spawned : Instant) (events : List TaskEvent) :
    let watched := (run step (spawn connection spawned) events).1
    let outputs := (connection.fed watched.handed).session.output
    let queued := watched.task.connection.session.output
    outputs = watched.performed ++ queued ∧
    sends outputs = watched.task.sent ++ sends queued ∧
    watched.task.packets.taken <+: messages .reliable watched.performed ∧
    (watched.task.packets.listening = true → watched.task.phase ≠ .ended →
      messages .reliable outputs = watched.task.packets.taken ++ watched.task.packets.queue ++
        watched.task.phase.held ++ messages .reliable queued) ∧
    (watched.task.readyPending = false ↔ .event .ready ∈ watched.performed) ∧
    (.event .failed ∈ watched.performed → watched.task.phase = .ended) := by
  intro watched outputs queued
  have started : (spawn connection spawned).Refines connection := rfl
  have refines : watched.Refines connection := run_invariant step (fun _ event refines => refines.step event) started events
  have delivers := delivers_run connection spawned events
  have whole : outputs = watched.performed ++ queued :=
    congrArg (fun connection : Connection rtc => connection.session.output) refines.symm
  refine ⟨whole, ?_, watched.task.packets.taken_prefix_given.trans delivers.given, ?_, delivers.ready, delivers.failed⟩
  · rw [whole, sends_append, delivers.sent]
  · intro listening running
    rw [whole, messages_append, delivers.complete listening running]
    rfl

/-! ## Unreliable messages -/

/-- There is room for the unreliable message that the event performs, if it performs one. -/
def Roomy (watched : WatchedTask rtc) (event : TaskEvent) : Prop :=
  ∀ data, watched.task.performing event = some (.message .unreliable data) →
    watched.task.unreliable.queue.length < packetChannelCapacity

/-- No unreliable message is missing. -/
def Kept (watched : WatchedTask rtc) : Prop :=
  watched.task.unreliable.given = messages .unreliable watched.performed

theorem kept_perform (task : SessionTask rtc) (now : Instant) (output : SessionOutput)
    (sublist : task.unreliable.given.Sublist (messages .unreliable performed)) :
    (task.perform now output).unreliable.listening = task.unreliable.listening ∧ (task.unreliable.listening = true →
      ((task.perform now output).unreliable.given = messages .unreliable (performed ++ [output]) ↔
        task.unreliable.given = messages .unreliable performed ∧
          ∀ data, output = .message .unreliable data → task.unreliable.queue.length < packetChannelCapacity)) := by
  rw [messages_append]
  rcases task.unreliable_perform now output with ⟨data, rfl, same⟩ | ⟨other, none, same⟩
  · obtain ⟨unreliable, tried, heard, result⟩ := task.tryDeliver_cases data
    rw [same, tried]
    refine ⟨heard, fun listening => ?_⟩
    show unreliable.given = messages .unreliable performed ++ [data] ↔ _
    rcases result with ⟨room, given⟩ | ⟨rfl, full⟩
    · rw [given, List.append_left_inj, and_iff_left fun _ _ => room]
    · constructor
      · intro equal
        have longer := sublist.length_le
        rw [equal, List.length_append, List.length_singleton] at longer
        omega
      · rintro ⟨-, room⟩
        exact absurd (room data rfl) (Nat.not_lt.mpr (full listening))
  · rw [same, none, List.append_nil]
    exact ⟨rfl, fun _ => (and_iff_left fun data message => absurd message (other data)).symm⟩

variable {after task : SessionTask rtc}

-- only a performed output adds to the messages
theorem unreliable_steps (steps : task.Steps handed none after) (listening : after.unreliable.listening = true) :
    task.unreliable.listening = true ∧ after.unreliable.given = task.unreliable.given := by
  cases steps with
  | delivers _ =>
    rw [(task.frame_deliver _).1] at listening ⊢
    exact ⟨listening, rfl⟩
  | selects _ frame _ _ =>
    rw [frame.unreliable] at listening ⊢
    exact ⟨listening, rfl⟩
  | takes channel =>
    cases channel with
    | reliable => exact ⟨listening, rfl⟩
    | unreliable => exact ⟨Mailbox.listening_take task.unreliable ▸ listening, Mailbox.given_take _⟩
  | hangsUp channel =>
    cases channel with
    | reliable => exact ⟨listening, rfl⟩
    | unreliable => cases listening
  | _ => exact ⟨listening, rfl⟩

/-- A step keeps the unreliable messages complete exactly when there is room for the one it performs. -/
theorem kept_steps (steps : task.Steps handed output after)
    (sublist : task.unreliable.given.Sublist (messages .unreliable performed))
    (listening : after.unreliable.listening = true) :
    task.unreliable.listening = true ∧
      (after.unreliable.given = messages .unreliable (performed ++ output.toList) ↔
        task.unreliable.given = messages .unreliable performed ∧ ∀ data, output = some (.message .unreliable data) →
          task.unreliable.queue.length < packetChannelCapacity) := by
  cases output with
  | none =>
    obtain ⟨heard, same⟩ := unreliable_steps steps listening
    rw [Option.toList_none, List.append_nil, same]
    exact ⟨heard, (and_iff_left nofun).symm⟩
  | some output =>
    cases steps with
    | performs now _ _ =>
      rename_i rest _ _
      obtain ⟨heard, kept⟩ := kept_perform (task.polled rest) now output sublist
      rw [heard] at listening
      simp only [Option.some.injEq]
      exact ⟨listening, kept listening⟩

theorem kept_run (delivers : Delivers watched.task watched.performed) (events : List TaskEvent)
    (listening : (run step watched events).1.task.unreliable.listening = true) :
    watched.task.unreliable.listening = true ∧
      ((run step watched events).1.Kept ↔ watched.Kept ∧ Along step Roomy watched events) := by
  induction events generalizing watched with
  | nil => exact ⟨listening, (and_iff_left trivial).symm⟩
  | cons event events ih =>
    have steps := watched.task.steps event
    obtain ⟨heard, rest⟩ := ih (delivers.steps steps) listening
    obtain ⟨heard, first⟩ := kept_steps steps delivers.unreliable heard
    refine ⟨heard, ?_⟩
    have first : (watched.step event).1.Kept ↔ watched.Kept ∧ watched.Roomy event := first
    exact rest.trans ((and_congr_left' first).trans and_assoc)

/-- The application takes unreliable messages in their order, none twice. While it keeps their receiver, none of those
performed is missing exactly when the queue had room for each of them at the time. -/
theorem unreliable_messages_kept_iff (connection : Connection rtc) (spawned : Instant) (events : List TaskEvent) :
    let watched := (run step (spawn connection spawned) events).1
    (watched.task.unreliable.taken ++ watched.task.unreliable.queue).Sublist (messages .unreliable watched.performed) ∧
    (watched.task.unreliable.listening = true →
      (watched.task.unreliable.taken ++ watched.task.unreliable.queue = messages .unreliable watched.performed ↔
        Along step Roomy (spawn connection spawned) events)) := by
  intro watched
  have delivers := delivers_run connection spawned events
  refine ⟨delivers.unreliable, fun listening => ?_⟩
  have kept := (kept_run (delivers_spawn connection spawned) events listening).2
  rw [and_iff_right (show (spawn connection spawned).Kept from rfl)] at kept
  exact kept

end WatchedTask

end Tokio

end Nethernet
