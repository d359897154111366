import Nethernet.Session.Announcements

/-! Messages that are delivered before the session is ready.

A channel is drained as soon as it is open, in the same pump and before the readiness is announced, so
data that arrives early overtakes the announcement. -/

set_option autoImplicit false

namespace Nethernet
open Foundation

variable {Candidate : Type} {rtc : Rtc Candidate}

/-- Every message that the streams of an association carried so far. -/
def Association.received {Rest : Type} (assoc : Association Rest) : List Chunks :=
  assoc.streams.flatMap fun stream => (assoc.messages stream).items

theorem Association.received_readAll {Rest : Type} (assoc : Association Rest) (stream : StreamId) :
    (assoc.readAll stream).1.received = assoc.received := by
  unfold received
  apply List.flatMap_congr
  intro other _
  show (Function.update assoc.messages stream (assoc.messages stream).drain other).items = _
  by_cases same : other = stream
  · rw [same, Function.update_self, Feed.items_drain]
  · rw [Function.update_of_ne same]

def notMessage (output : SessionOutput) : Bool := !output.isMessage

theorem notMessage_of_isTraffic (output : SessionOutput) (traffic : output.isTraffic = true) :
    notMessage output = true := by
  cases output <;> first | rfl | cases traffic

/-! ## Draining -/

variable {state : StreamState rtc}

namespace StreamState

def DcepOnly (state : StreamState rtc) : Prop := ∀ chunks ∈ state.association.received, chunks.ppi = .dcep

theorem association_handleChunks (channel : Channel) (state : StreamState rtc) (chunks : Chunks) :
    (handleChunks channel state chunks).association = state.association := by
  unfold handleChunks
  split
  · rfl
  · split
    · rfl
    · split
      · rfl
      · unfold handleSegment
        split
        · dsimp only
          split <;> rfl
        · split <;> rfl

theorem handleChunks_dcep {channel : Channel} {chunks : Chunks} (dcep : chunks.ppi = .dcep) :
    handleChunks channel state chunks = state := by
  unfold handleChunks
  split
  · rfl
  · rw [if_pos dcep]

theorem received_drainChannel (state : StreamState rtc) (channel : Channel) :
    (state.drainChannel channel).association.received = state.association.received := by
  unfold drainChannel
  split
  · rfl
  · rename_i stream _
    split
    · rw [← Association.received_readAll state.association stream]
      apply List.foldlRecOn (motive := fun next : StreamState rtc =>
        next.association.received = (state.association.readAll stream).1.received)
      · rfl
      · intro next reached chunks _
        rw [association_handleChunks]
        exact reached
    · rfl

/-- Draining delivers nothing when only DCEP messages came. -/
theorem output_drainChannel (dcepOnly : state.DcepOnly) (channel : Channel) :
    (state.drainChannel channel).output = state.output := by
  unfold drainChannel
  split
  · rfl
  · rename_i stream _
    split
    · rename_i usable
      apply List.foldlRecOn (motive := fun next : StreamState rtc => next.output = state.output)
      · rfl
      · intro next reached chunks member
        have carried : chunks ∈ state.association.received :=
          List.mem_flatMap.mpr ⟨stream, usable.1, List.mem_append_right _ member⟩
        rw [handleChunks_dcep (dcepOnly chunks carried)]
        exact reached
    · rfl

-- what came is known only when the drain is over, so the condition stands behind it
theorem guarded_drainDcepAndData (start : List SessionOutput) (now : Instant) :
    Fallible.Triple (fun state => Appends notMessage start state.output) (drainDcepAndData rtc now)
      (fun _ state => state.DcepOnly → Appends notMessage start state.output)
      (fun state => Appends notMessage start state.output) := by
  have accepted : Fallible.Triple (fun state => Appends notMessage start state.output) (acceptStreams rtc now)
      (fun _ state => Appends notMessage start state.output) (fun state => Appends notMessage start state.output) :=
    (steady_acceptStreams now).triple fun _ _ steady muted => trans_of (Appends notMessage) muted steady.appends
  refine accepted.bind fun _ => ?_
  apply Fallible.Triple.modify
  intro state muted dcepOnly
  show Appends notMessage start ((state.drainChannel .reliable).drainChannel .unreliable).output
  have sameFirst := received_drainChannel state .reliable
  have sameSecond := received_drainChannel (state.drainChannel .reliable) .unreliable
  have middle : (state.drainChannel .reliable).DcepOnly := by
    intro chunks member
    rw [← sameSecond] at member
    exact dcepOnly chunks member
  have before : state.DcepOnly := by
    intro chunks member
    rw [← sameFirst] at member
    exact middle chunks member
  rw [output_drainChannel middle, output_drainChannel before]
  exact muted

end StreamState

/-! ## Calls -/

variable (session : Session rtc) (now : Instant) (input : SessionInput Candidate)

namespace Session

def received (session : Session rtc) : List Chunks := (session.association.map Association.received).getD []

def DcepOnly (session : Session rtc) : Prop := ∀ chunks ∈ session.received, chunks.ppi = .dcep

/-- Nothing comes and no message is delivered. -/
structure Silent (before after : Session rtc) : Prop where
  received : after.received = before.received
  output : Appends notMessage before.output after.output

instance : IsPreorder (Session rtc) Silent where
  refl session := ⟨rfl, refl_of (Appends notMessage) session.output⟩
  trans _ _ _ left right :=
    ⟨right.received.trans left.received, trans_of (Appends notMessage) left.output right.output⟩

theorem Silent.of_sctp {before after : Session rtc} (same : after.sctp = before.sctp)
    (output : Appends notMessage before.output after.output) : Silent before after :=
  ⟨by rw [Session.received, association, same]; rfl, output⟩

theorem appends_event (output : List SessionOutput) (event : SessionEvent) :
    Appends notMessage output (output ++ [.event event]) :=
  ⟨[.event event], rfl, by simp [notMessage, SessionOutput.isMessage]⟩

theorem silent_fail : Silent session session.fail := by
  unfold fail
  split
  · exact refl_of Silent session
  · exact .of_sctp rfl (appends_event session.output .failed)

theorem silent_conclude (failed : Bool) : Silent session (session.conclude now failed) := by
  refine relates_conclude silent_fail (fun session => ?_) session now failed
  unfold announceReady
  split
  · exact .of_sctp rfl (appends_event session.output .ready)
  · exact refl_of Silent session

theorem received_map {change : SctpLayer rtc → SctpLayer rtc}
    (kept : ∀ layer, (change layer).association.map Association.received =
      layer.association.map Association.received) :
    ({ session with sctp := session.sctp.map change } : Session rtc).received = session.received := by
  unfold received association
  cases session.sctp with
  | none => rfl
  | some layer => exact congrArg (Option.getD · []) (kept layer)

theorem silent_writePacket (packet : Bytes) : Fallible.Obeys Silent (writePacket now packet : SessionM rtc Unit) := by
  intro session
  have popped : Silent session { session with sctp := session.sctp.map SctpLayer.popTransmit } :=
    ⟨received_map session fun _ => rfl, refl_of (Appends notMessage) session.output⟩
  unfold writePacket
  dsimp only
  split
  · exact popped
  · apply trans_of Silent popped
    exact .of_sctp rfl (refl_of (Appends notMessage) session.output)

theorem silent_transmit : Fallible.Obeys Silent (transmit now : SessionM rtc Unit) := by
  have collected (session : Session rtc) :
      Silent session { session with sctp := session.sctp.map (·.collectTransmits now) } := by
    refine ⟨received_map session fun layer => ?_, refl_of (Appends notMessage) session.output⟩
    unfold SctpLayer.collectTransmits
    cases present : layer.association with
    | none => exact congrArg (Option.map Association.received) present
    | some assoc => rfl
  refine Fallible.Obeys.bind (.modify collected) fun _ => ?_
  refine Fallible.Obeys.bind .get fun session => ?_
  split
  · exact .pure ()
  · exact Fallible.Obeys.each fun packet _ => silent_writePacket now packet

theorem silent_flushDtls : Silent session session.flushDtls := by
  unfold flushDtls
  split
  · exact refl_of Silent session
  · exact .of_sctp rfl ((appends_sends session.output _).weaken notMessage_of_isTraffic)

theorem silent_pushWait (session : Session rtc) : Silent session (session.pushWait now) := by
  have same : (session.pushWait now).sctp = session.sctp := by
    obtain ⟨ice, left | ⟨duration, left⟩⟩ := pushWait_cases session now <;> rw [left]
  exact .of_sctp same ((steady_pushWait session now).unannounced.appends.weaken notMessage_of_isTraffic)

def Muted (before after : Session rtc) : Prop := Appends notMessage before.output after.output

instance : IsPreorder (Session rtc) Muted where
  refl session := refl_of (Appends notMessage) session.output
  trans _ _ _ left right := trans_of (Appends notMessage) left right

section
variable {start : Session rtc}

-- no message was delivered, if only DCEP messages came
def Guarded (start session : Session rtc) : Prop := session.DcepOnly → Muted start session

theorem Muted.guarded {session : Session rtc} (muted : Muted start session) : Guarded start session := fun _ => muted

theorem Guarded.silent {before after : Session rtc} (guarded : Guarded start before) (silent : Silent before after) :
    Guarded start after := by
  intro dcepOnly
  refine trans_of (Appends notMessage) (guarded ?_) silent.output
  intro chunks member
  rw [← silent.received] at member
  exact dcepOnly chunks member

theorem guarded_muted {A : Type} {program : SessionM rtc A} (muted : Fallible.Obeys Muted program) :
    Fallible.Triple (Muted start) program (fun _ => Muted start) (Guarded start) := by
  have kept : Fallible.Triple (Muted start) program (fun _ => Muted start) (Muted start) :=
    muted.triple fun _ _ later muted => trans_of Muted muted later
  exact kept.weaken (fun _ muted => muted) (fun _ _ muted => muted) fun _ muted => muted.guarded

theorem guarded_steady {A : Type} {program : SessionM rtc A} (steady : Fallible.Obeys (Steady notMessage) program) :
    Fallible.Triple (Muted start) program (fun _ => Muted start) (Guarded start) :=
  guarded_muted (steady.weaken fun _ _ steady => steady.unannounced.appends)

theorem guarded_silent {A : Type} {program : SessionM rtc A} (silent : Fallible.Obeys Silent program) :
    Fallible.Triple (Guarded start) program (fun _ => Guarded start) (Guarded start) :=
  silent.triple fun _ _ silent guarded => guarded.silent silent

theorem muted_pollIce : Muted session session.pollIce := by
  have polled : Muted session session.polled := (appends_sends session.output _).weaken notMessage_of_isTraffic
  rw [pollIce_eq]
  split
  · exact trans_of Muted polled (silent_fail _).output
  · exact polled

theorem guarded_drain :
    Fallible.Triple (Muted start) (onStreams () (StreamState.drainDcepAndData rtc now)) (fun _ => Guarded start)
      (Guarded start) := by
  intro session muted
  cases there : session.streamState with
  | none =>
    rw [onStreams_none there]
    exact muted.guarded
  | some state =>
    obtain ⟨next, outcome, streams, -, -⟩ := onStreams_some there () (StreamState.drainDcepAndData rtc now)
    have same : state.output = session.output := by
      obtain ⟨assoc, -, rfl⟩ := Option.map_eq_some_iff.mp there
      rfl
    have quiet : Appends notMessage start.output state.output := by
      rw [same]
      exact muted
    have result := StreamState.guarded_drainDcepAndData start.output now state quiet
    rw [outcome]
    cases ran : StreamState.drainDcepAndData rtc now state with
    | mk final value =>
      rw [ran] at result streams
      obtain ⟨assoc, found, built⟩ := Option.map_eq_some_iff.mp streams
      cases built
      have received : next.received = assoc.received := by
        rw [Session.received, found]
        rfl
      cases value with
      | ok value =>
        intro dcepOnly
        rw [DcepOnly, received] at dcepOnly
        exact result dcepOnly
      | error e => exact fun _ => result

theorem guarded_pump : Fallible.Triple (Muted start) (pump now) (fun _ => Guarded start) (Guarded start) := by
  refine Fallible.Triple.bind (guarded_muted (.modify muted_pollIce)) fun _ => ?_
  refine Fallible.Triple.bind (guarded_steady (steady_startTransportsOnSelectedPair now)) fun _ => ?_
  refine Fallible.Triple.bind ?_ fun failed => guarded_silent (.modify fun session => silent_conclude session now failed)
  refine Fallible.Triple.read fun session => ?_
  split
  · refine Fallible.Triple.bind (guarded_steady (steady_onStreams
      (StreamState.opening_steady.handleEvents now session.isControlling) false)) fun failed => ?_
    refine Fallible.Triple.bind (guarded_drain now) fun _ => ?_
    refine Fallible.Triple.bind (guarded_silent (silent_transmit now)) fun _ => ?_
    refine Fallible.Triple.bind (guarded_silent (.modify silent_flushDtls)) fun _ => ?_
    exact Fallible.Triple.pure fun _ guarded => guarded
  · exact Fallible.Triple.pure fun _ muted => Muted.guarded muted

/-- A call delivers no message as long as only DCEP messages have come when it returns. -/
theorem guarded_handle : Fallible.Triple (Muted start) (handle input) (fun _ => Guarded start) (Guarded start) := by
  have parts : Parts input id fun _ => Fallible.Obeys (Muted : Session rtc → Session rtc → Prop) :=
    parts_steady.weaken fun _ _ steady => steady.unannounced.appends
  have first := parts.beforePump fun _ _ _ _ session => refl_of (Appends notMessage) session.output
  rw [handle_eq]
  refine (guarded_muted first).bind fun pumps => ?_
  cases pumps with
  | none => exact Fallible.Triple.pure fun _ muted => Muted.guarded muted
  | some now =>
    exact (guarded_pump now).bind fun _ => guarded_silent (.modify (relates_afterPump silent_pushWait input))

theorem guarded_step : Guarded session (session.step input).1 :=
  (guarded_handle input).left (refl_of Muted session)

end

end Session

/-! ## Runs -/

namespace WatchedSession

/-- Every message stands behind the readiness. -/
def ReadyFirst (outputs : List SessionOutput) : Prop :=
  ∀ earlier later channel data, outputs = earlier ++ .message channel data :: later → .event .ready ∈ earlier

theorem ReadyFirst.append {outputs new : List SessionOutput} (introduced : ReadyFirst outputs)
    (ready : .event .ready ∈ outputs ∨ ∀ output ∈ new, notMessage output = true) : ReadyFirst (outputs ++ new) := by
  intro earlier later channel data whole
  rcases List.append_eq_append_iff.mp whole with ⟨between, begun, rest⟩ | ⟨between, begun, rest⟩
  · -- the message is among the new outputs
    rw [begun]
    rcases ready with known | quiet
    · exact List.mem_append_left _ known
    · have loud := quiet (.message channel data) (by rw [rest]; exact List.mem_append_right _ List.mem_cons_self)
      cases loud
  · cases between with
    | nil =>
      rw [List.append_nil] at begun
      rcases ready with known | quiet
      · rwa [← begun]
      · have loud := quiet (.message channel data) (by rw [← show _ = new from rest]; exact List.mem_cons_self)
        cases loud
    | cons first between =>
      obtain ⟨rfl, rfl⟩ := List.cons.inj rest
      exact introduced earlier between channel data begun

/-- The call is made to a session that has announced its readiness, or only DCEP messages have come when
it returns. -/
def Patient (watched : WatchedSession rtc) : SessionCall Candidate → Prop
  | .poll => True
  | .handle input => .event .ready ∈ watched.outputs ∨ (watched.session.step input).1.DcepOnly

structure Introduced (watched : WatchedSession rtc) : Prop where
  sound : watched.Sound
  readyFirst : ReadyFirst watched.outputs

theorem Introduced.step {watched : WatchedSession rtc} (introduced : watched.Introduced) {call : SessionCall Candidate}
    (patient : watched.Patient call) : (watched.step call).1.Introduced := by
  refine ⟨introduced.sound.step call, ?_⟩
  cases call with
  | poll =>
    obtain ⟨output, -, same⟩ := poll_eq watched
    rw [same]
    exact introduced.readyFirst
  | handle input =>
    show ReadyFirst (watched.taken ++ (watched.session.step input).1.output)
    rcases patient with ready | dcepOnly
    · obtain ⟨new, grown⟩ := (advances_handle introduced.sound.anchored input).output
      rw [← grown, ← List.append_assoc]
      exact introduced.readyFirst.append (.inl ready)
    · obtain ⟨new, grown, quiet⟩ := Session.guarded_step watched.session input dcepOnly
      rw [grown, ← List.append_assoc]
      exact introduced.readyFirst.append (.inr quiet)

/-- In a run whose peer sends only DCEP messages until the readiness is announced, no message is delivered
before it. -/
theorem messages_behind_ready (localAddr : SocketAddr) (isControlling : Bool) (ice : rtc.Agent)
    (certificate : rtc.Certificate) (within : Duration) (calls : List (SessionCall Candidate))
    (patient : Along step Patient (start localAddr isControlling ice certificate within : WatchedSession rtc) calls) :
    ReadyFirst (run step (start localAddr isControlling ice certificate within : WatchedSession rtc) calls).1.outputs := by
  have begun : (start localAddr isControlling ice certificate within : WatchedSession rtc).Introduced := by
    refine ⟨sound_start localAddr isControlling ice certificate within, ?_⟩
    intro earlier later channel data whole
    cases (List.nil_eq_append_iff.mp whole).2
  have keeps (watched : WatchedSession rtc) (call : SessionCall Candidate) (introduced : watched.Introduced)
      (patient : watched.Patient call) : (watched.step call).1.Introduced :=
    introduced.step patient
  exact (Along.invariant step keeps begun patient).readyFirst

-- one byte of user data on the reliable channel
def dataPacket : Bytes := [1, 1, 0, 42]

def patientCalls : List (SessionCall Unit) :=
  [.handle Session.offered, packetAt Session.openReliable 1, packetAt Session.openUnreliable 1, packetAt dataPacket 2]

/-- Data behind both opens is delivered after the readiness. -/
theorem data_behind_opens :
    ReadyFirst (run step (start (.v4 0x7f000001 8) false () () 5 : WatchedSession Session.plainRtc) patientCalls).1.outputs := by
  apply messages_behind_ready
  refine ⟨.inr ?_, .inr ?_, .inr ?_, .inl ?_, trivial⟩
  · show ∀ chunks ∈ _, _
    decide +kernel
  · show ∀ chunks ∈ _, _
    decide +kernel
  · show ∀ chunks ∈ _, _
    decide +kernel
  · decide +kernel

/-- Data between the two opens is delivered before it. -/
theorem data_between_opens :
    (run step (start (.v4 0x7f000001 8) false () () 5 : WatchedSession Session.plainRtc)
      [.handle Session.offered, packetAt Session.openReliable 1, packetAt dataPacket 1,
        packetAt Session.openUnreliable 1]).1.outputs.filter (fun output => output.isMessage || output.isEvent) =
      [.message .reliable [42], .event .ready] := by
  decide +kernel

end WatchedSession

end Nethernet
