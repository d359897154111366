import Nethernet.Session.Advance

/-! When a session announces that it is ready or that it has failed. -/

set_option autoImplicit false

namespace Nethernet
open Foundation

variable {Candidate : Type} {rtc : Rtc Candidate} (session : Session rtc) (now : Instant)
  (input : SessionInput Candidate) {before : Session rtc} (remote : Description) {after : Session rtc}
  {start : Session rtc}

namespace Session

/-! ## The end of a pump -/

-- a pump up to its last step
def pumpLayers (now : Instant) : SessionM rtc Bool := startLayers now >>= fun _ => pumpSctp now

theorem pump_eq_layers :
    (pump now : SessionM rtc Unit) = pumpLayers now >>= fun failed => .modify (conclude now failed) := by
  rw [pump_eq, pumpLayers, Fallible.bind_assoc]

theorem calm_startLayers : Fallible.Obeys Calm (startLayers now : SessionM rtc Unit) :=
  Fallible.Obeys.bind (.modify calm_pollIce) fun _ =>
    (steady_startTransportsOnSelectedPair now).weaken fun _ _ steady => steady.calm

theorem calm_pumpLayers : Fallible.Obeys Calm (pumpLayers now : SessionM rtc Bool) :=
  (calm_startLayers now).bind fun _ => (steady_pumpSctp now).weaken fun _ _ steady => steady.calm

theorem bothOpen_fail : session.fail.channels.bothOpen = session.channels.bothOpen := by
  unfold fail
  split <;> rfl

theorem announceReady_cases :
    (session.announceReady = session ∧
      (session.channels.bothOpen = true → session.channels.readyEmitted = true)) ∨
    (session.channels.bothOpen = true ∧ session.channels.readyEmitted = false ∧
      session.announceReady =
        { session with channels := { session.channels with readyEmitted := true } }.push (.event .ready)) := by
  unfold announceReady
  split
  · rename_i due
    rw [Bool.and_eq_true, Bool.not_eq_true'] at due
    exact .inr ⟨due.1, due.2, rfl⟩
  · rename_i settled
    refine .inl ⟨rfl, ?_⟩
    intro opened
    rw [Bool.and_eq_true, not_and, Bool.not_eq_true'] at settled
    exact (Bool.not_eq_false _).mp (settled opened)

theorem advances_announceReady : Advances session session.announceReady := by
  rcases announceReady_cases session with ⟨same, -⟩ | ⟨-, fresh, announced⟩
  · rw [same]
    exact refl_of Advances session
  · rw [announced]
    refine .announce fresh rfl ?_ ?_
    · intro other different
      cases other
      · exact absurd rfl different
      · rfl
    · intro channel
      cases channel <;> rfl

theorem checkDeadline_of_ready {session : Session rtc} (ready : session.channels.readyEmitted = true) (now : Instant) :
    session.checkDeadline now = session := by
  simp [checkDeadline, establishDeadline, ready]

theorem checkDeadline_cases : session.checkDeadline now = session ∨ session.checkDeadline now = session.fail := by
  unfold checkDeadline
  split
  · split
    · exact .inr rfl
    · exact .inl rfl
  · exact .inl rfl

/-- Time is up only for a session that has announced one of the two events. -/
def Judged (now : Instant) (session : Session rtc) : Prop :=
  ∀ since, session.establishStarted = some since → since + session.establishWithin ≤ now →
    session.channels.readyEmitted = true ∨ session.channels.failedEmitted = true

theorem failedEmitted_fail : session.fail.channels.failedEmitted = true := by
  unfold fail
  split
  · assumption
  · rfl

theorem judged_checkDeadline : (session.checkDeadline now).Judged now := by
  unfold checkDeadline
  split
  · split
    · exact fun _ _ _ => .inr (failedEmitted_fail session)
    · rename_i deadline found early
      intro since started due
      unfold establishDeadline at found
      split at found
      · cases found
      · rw [started] at found
        cases found
        exact absurd due early
  · rename_i none
    intro since started due
    unfold establishDeadline at none
    split at none
    · rename_i announced
      rwa [Bool.or_eq_true] at announced
    · rw [started] at none
      cases none

theorem triple_judged :
    Fallible.Triple (fun _ => True) (handleTimeout now : SessionM rtc Unit) (fun _ => Judged now) (fun _ => True) := by
  refine Fallible.Triple.bind (.any _) fun _ => ?_
  refine Fallible.Triple.bind (.any _) fun _ => ?_
  refine Fallible.Triple.bind (.any _) fun _ => ?_
  rw [pump_eq_layers, Fallible.bind_assoc]
  refine Fallible.Triple.bind (.any _) fun failed => ?_
  have judged : Fallible.Triple (fun _ => True) (.modify (conclude now failed) : SessionM rtc Unit)
      (fun _ => Judged now) (fun _ => True) :=
    .modify fun _ _ => judged_checkDeadline _ now
  refine judged.bind fun _ => ?_
  apply Fallible.Triple.modify
  intro session judged since started due
  have steady := steady_pushWait session now
  rw [steady.started] at started
  rw [steady.within] at due
  have flag (event : SessionEvent) : (session.pushWait now).channels.emitted event = session.channels.emitted event :=
    steady.unannounced.flags event
  exact (judged since started due).imp (flag .ready).trans (flag .failed).trans

theorem relates_conclude {relation : Session rtc → Session rtc → Prop} [IsPreorder (Session rtc) relation]
    (fails : ∀ session : Session rtc, relation session session.fail)
    (announces : ∀ session : Session rtc, relation session session.announceReady) (session : Session rtc)
    (now : Instant) (failed : Bool) : relation session (session.conclude now failed) := by
  have checks (session : Session rtc) : relation session (session.checkDeadline now) := by
    rcases checkDeadline_cases session now with same | expired
    · rw [same]
      exact refl_of relation session
    · rw [expired]
      exact fails session
  refine trans_of relation ?_ (trans_of relation (announces _) (checks _))
  split
  · exact fails session
  · exact refl_of relation session

theorem view_conclude {A : Type} (view : Session rtc → A) (fails : ∀ session : Session rtc, view session.fail = view session)
    (announces : ∀ session : Session rtc, view session.announceReady = view session) (session : Session rtc)
    (now : Instant) (failed : Bool) : view (session.conclude now failed) = view session := by
  have preorder : IsPreorder (Session rtc) fun before after => view after = view before :=
    { refl := fun _ => rfl, trans := fun _ _ _ left right => right.trans left }
  exact @relates_conclude _ _ _ preorder fails announces session now failed

/-! ## What comes before a pump -/

/-- No event is announced. -/
structure Plain (before after : Session rtc) : Prop where
  advances : Advances before after
  flags : ∀ event, after.channels.emitted event = before.channels.emitted event

instance : IsPreorder (Session rtc) Plain where
  refl session := ⟨refl_of Advances session, fun _ => rfl⟩
  trans _ _ _ left right :=
    ⟨trans_of Advances left.advances right.advances, fun event => (right.flags event).trans (left.flags event)⟩

theorem Steady.plain (steady : Steady isPlain before after) : Plain before after :=
  ⟨steady.advances, steady.unannounced.flags⟩

-- a description starts the clock, unless it runs already
theorem plain_expect (now : Instant) (session : Session rtc) : Plain session (session.expect remote now) := by
  refine ⟨⟨List.prefix_rfl, fun _ => rfl, fun _ known => known, rfl, ?_, id⟩, fun _ => rfl⟩
  intro since started
  rw [expect, started]
  rfl

theorem plain_beforePump : Fallible.Obeys Plain (beforePump input : SessionM rtc (Option Instant)) :=
  (parts_steady.weaken fun _ _ steady => steady.plain).beforePump fun remote _ now _ => .modify (plain_expect remote now)

/-! ## What a call leaves behind -/

/-- The call has not announced readiness. -/
def Unready (before after : Session rtc) : Prop :=
  Advances before after ∧ after.channels.readyEmitted = before.channels.readyEmitted

/-- Readiness is announced exactly when both channels are open, after every failure the call announces. -/
structure Concluded (before after : Session rtc) : Prop where
  advances : Advances before after
  order : after.channels.readyEmitted = before.channels.readyEmitted ∨
    (before.channels.readyEmitted = false ∧ after.channels.bothOpen = true ∧ ∃ earlier later,
      after.output = earlier ++ .event .ready :: later ∧ before.output <+: earlier ∧
      ∀ output ∈ later, output.isTraffic = true)
  complete : after.channels.bothOpen = true → after.channels.readyEmitted = true

theorem Unready.calm (unready : Unready start before) (calm : Calm before after) : Unready start after :=
  ⟨trans_of Advances unready.1 calm.advances, calm.ready.trans unready.2⟩

theorem Unready.conclude {session : Session rtc} (unready : Unready start session) (now : Instant) (failed : Bool) :
    Concluded start (session.conclude now failed) := by
  have calm : Calm session (if failed then session.fail else session) := by
    split
    · exact calm_fail session
    · exact refl_of Calm session
  have reached := unready.calm calm
  unfold Session.conclude
  dsimp only
  generalize (if failed then session.fail else session) = middle at reached
  rcases announceReady_cases middle with ⟨same, complete⟩ | ⟨opened, fresh, announced⟩
  · rw [same]
    rcases checkDeadline_cases middle now with unchanged | expired
    · rw [unchanged]
      exact ⟨reached.1, .inl reached.2, complete⟩
    · rw [expired]
      have final := reached.calm (calm_fail middle)
      refine ⟨final.1, .inl final.2, ?_⟩
      rw [bothOpen_fail, (calm_fail middle).ready]
      exact complete
  · have advances := trans_of Advances reached.1 (advances_announceReady middle)
    rw [announced] at advances ⊢
    rw [checkDeadline_of_ready rfl]
    refine ⟨advances, .inr ⟨?_, opened, middle.output, [], rfl, reached.1.output, by simp⟩, fun _ => rfl⟩
    rw [← reached.2]
    exact fresh

theorem channels_pushWait : (session.pushWait now).channels = session.channels := by
  obtain ⟨ice, left | ⟨duration, left⟩⟩ := pushWait_cases session now <;> rw [left]

theorem Concluded.pushWait {session : Session rtc} (concluded : Concluded start session) (now : Instant) :
    Concluded start (session.pushWait now) := by
  have steady := steady_pushWait session now
  obtain ⟨waits, grown, traffic⟩ := steady.unannounced.appends
  have same := channels_pushWait session now
  refine ⟨trans_of Advances concluded.advances (steady.weaken isPlain_of_isTraffic).advances, ?_, ?_⟩
  · rw [same]
    refine concluded.order.imp_right ?_
    rintro ⟨fresh, opened, earlier, later, outputs, before, calls⟩
    refine ⟨fresh, opened, earlier, later ++ waits, ?_, before, ?_⟩
    · rw [show (session.pushWait now).output = session.output ++ waits from grown, outputs, List.append_assoc]
      rfl
    · intro output member
      rcases List.mem_append.mp member with early | late
      · exact calls output early
      · exact traffic output late
  · rw [same]
    exact concluded.complete

theorem triple_calm {A : Type} {program : SessionM rtc A} (calm : Fallible.Obeys Calm program) :
    Fallible.Triple (Unready start) program (fun _ => Unready start) (Unready start) :=
  calm.triple fun _ _ calm unready => unready.calm calm

theorem triple_pump : Fallible.Triple (Unready start) (pump now) (fun _ => Concluded start) (Unready start) := by
  rw [pump_eq_layers]
  refine (triple_calm (calm_pumpLayers now)).bind fun failed => ?_
  exact Fallible.Triple.modify fun session unready => unready.conclude now failed

theorem triple_beforePump :
    Fallible.Triple (Unready start) (beforePump input) (fun _ => Unready start) (Unready start) :=
  (plain_beforePump input).triple fun _ _ plain unready =>
    ⟨trans_of Advances unready.1 plain.advances, (plain.flags .ready).trans unready.2⟩

-- a packet that is kept for later finds nothing started
theorem triple_unpumped :
    Fallible.Triple (fun session => session = start) (beforePump input)
      (fun pumps session => pumps = none → start.dtls = none ∧ session.channels = start.channels) fun _ => True := by
  cases input with
  | packet data source now =>
    dsimp only [beforePump]
    split
    · exact Fallible.Triple.bind (.any _) fun _ _ _ => nofun
    · refine Fallible.Triple.bind Fallible.Triple.get fun session => ?_
      split
      · rename_i absent
        rintro _ ⟨rfl, rfl⟩ -
        refine ⟨Option.isNone_iff_eq_none.mp absent, ?_⟩
        show (bufferEarly data session).channels = session.channels
        unfold bufferEarly
        split <;> rfl
      · exact Fallible.Triple.bind (.any _) fun _ _ _ => nofun
  | remoteDescription remote candidates now =>
    refine Fallible.Triple.bind (.any _) fun _ => ?_
    refine Fallible.Triple.bind (.any _) fun _ => ?_
    refine Fallible.Triple.bind (.any _) fun _ => ?_
    exact Fallible.Triple.bind (.any _) fun _ _ _ => nofun
  | remoteCandidate candidate now => exact Fallible.Triple.bind (.any _) fun _ _ _ => nofun
  | send channel data now => exact Fallible.Triple.bind (.any _) fun _ _ _ => nofun
  | timeout now =>
    refine Fallible.Triple.bind (.any _) fun _ => ?_
    refine Fallible.Triple.bind (.any _) fun _ => ?_
    exact Fallible.Triple.bind (.any _) fun _ _ _ => nofun

theorem closed_unpumped {session : Session rtc} {input : SessionInput Candidate} (anchored : before.Anchored)
    (outcome : beforePump input before = (session, .ok none)) : session.channels.bothOpen = false := by
  obtain ⟨absent, same⟩ := (triple_unpumped input).ok rfl outcome rfl
  rw [same, Channels.bothOpen]
  have closed := (anchored absent).2 .reliable
  rw [Channels.streamId] at closed
  rw [closed]
  rfl

theorem Concluded.afterPump {session : Session rtc} (concluded : Concluded start session) (input : SessionInput Candidate) :
    Concluded start (session.afterPump input) := by
  cases input with
  | remoteDescription remote candidates now => exact concluded.pushWait now
  | timeout now => exact concluded.pushWait now
  | _ => exact concluded

/-- A call that returns an error announces no readiness; one that returns without is concluded. -/
theorem triple_handle (anchored : start.Anchored) (input : SessionInput Candidate) :
    Fallible.Triple (Unready start) (handle input) (fun _ => Concluded start) (Unready start) := by
  intro session unready
  rw [handle_eq]
  refine Fallible.Triple.bind ((triple_beforePump input).remember unready) (fun pumps => ?_) session rfl
  rintro before ⟨first, outcome⟩
  cases pumps with
  | none =>
    refine ⟨first.1, .inl first.2, fun opened => ?_⟩
    rw [closed_unpumped (unready.1.anchored anchored) outcome] at opened
    cases opened
  | some now =>
    exact (triple_pump now).bind (fun _ => .modify fun _ concluded => concluded.afterPump input) before first

end Session

/-! ## What a call does not look at -/

namespace StreamState

-- the same streams, behind earlier outputs
def behind (earlier : List SessionOutput) (state : StreamState rtc) : StreamState rtc :=
  { state with output := earlier ++ state.output }

abbrev Blind {A : Type} (earlier : List SessionOutput) (program : StreamM rtc A) : Prop :=
  Fallible.Ignores (behind earlier) program

section
variable {earlier : List SessionOutput}

theorem opening_blind : Opening rtc (behind earlier) fun _ => Fallible.Ignores (behind earlier) where
  toCompositional := Fallible.compositional_ignores
  unseen _ := rfl
  write _ _ _ _ _ := rfl
  openStream stream state := by
    by_cases present : stream ∈ state.association.streams
    · simp only [Fallible.IgnoresAt, openStream, behind, present, if_true]
    · simp only [Fallible.IgnoresAt, openStream, behind, present, if_false]
      split <;> rfl
  setOpen _ _ _ := rfl
  pop _ _ := rfl

theorem handleSegment_behind (channel : Channel) (state : StreamState rtc) (segment : MessageSegment) :
    handleSegment channel (state.behind earlier) segment = (handleSegment channel state segment).behind earlier := by
  cases channel with
  | reliable =>
    simp only [handleSegment, behind]
    split
    · simp only [deliver, List.append_assoc]
    · rfl
    · rfl
  | unreliable =>
    simp only [handleSegment, behind]
    split
    · simp only [deliver, List.append_assoc]
    · rfl

theorem handleChunks_behind (channel : Channel) (state : StreamState rtc) (chunks : Chunks) :
    handleChunks channel (state.behind earlier) chunks = (handleChunks channel state chunks).behind earlier := by
  unfold handleChunks
  split
  · rfl
  · split
    · rfl
    · split
      · rfl
      · exact handleSegment_behind channel state _

theorem drainChannel_behind (state : StreamState rtc) (channel : Channel) :
    drainChannel (state.behind earlier) channel = (drainChannel state channel).behind earlier := by
  have drained (received : List Chunks) (state : StreamState rtc) :
      received.foldl (handleChunks channel) (state.behind earlier) =
        (received.foldl (handleChunks channel) state).behind earlier := by
    induction received generalizing state with
    | nil => rfl
    | cons chunks received ih => rw [List.foldl_cons, List.foldl_cons, handleChunks_behind, ih]
  simp only [drainChannel, show (state.behind earlier).channels = state.channels from rfl,
    show (state.behind earlier).association = state.association from rfl]
  split
  · rfl
  · rename_i stream _
    split
    · exact drained _ { state with association := (state.association.readAll stream).1 }
    · rfl

theorem blind_drainDcepAndData : Blind earlier (drainDcepAndData rtc now) := by
  refine Fallible.Ignores.bind ?_ fun _ => .modify fun state => ?_
  · exact opening_blind.acceptStreams now (fun _ => rfl) fun _ _ => rfl
  · simp only [List.foldl_cons, List.foldl_nil, drainChannel_behind]

end

end StreamState

variable (operation : rtc.Agent → rtc.Agent × Except String Unit) (candidates : List Candidate)

namespace Session

/-- The same session, behind earlier outputs and with another deadline. -/
def recast (earlier : List SessionOutput) (within : Duration → Duration) (session : Session rtc) : Session rtc :=
  { session with output := earlier ++ session.output, establishWithin := within session.establishWithin }

abbrev Blind {A : Type} (earlier : List SessionOutput) (within : Duration → Duration) (program : SessionM rtc A) : Prop :=
  Fallible.Ignores (recast earlier within) program

section
variable {earlier : List SessionOutput} {within : Duration → Duration}

theorem blind_onIce : Blind earlier within (onIce rtc operation) :=
  fun _ => rfl

theorem blind_onStreams {A : Type} (absent : A) {program : StreamM rtc A} (blind : StreamState.Blind earlier program) :
    Blind earlier within (onStreams absent program) := by
  intro session
  simp only [Fallible.IgnoresAt, onStreams, recast]
  split
  · rename_i endpoint remoteAddr association pendingTransmits _
    have same := blind ⟨association, session.channels, session.output⟩
    simp only [Fallible.IgnoresAt, StreamState.behind] at same
    rw [same]
  · rfl

theorem blind_readDtls (data : Bytes) (now : Instant) : Blind earlier within (readDtls data now : SessionM rtc Unit) := by
  have fed (received : List Bytes) (session : Session rtc) :
      received.foldl (fun session data => session.handleDtlsEvent data now) (session.recast earlier within) =
        (received.foldl (fun session data => session.handleDtlsEvent data now) session).recast earlier within := by
    induction received generalizing session with
    | nil => rfl
    | cons data received ih => exact ih (session.handleDtlsEvent data now)
  intro session
  show readDtls data now (session.recast earlier within) = _
  unfold readDtls
  cases present : session.dtls with
  | none => simp only [recast, present]
  | some dtls =>
    simp only [recast, present]
    split
    · rfl
    · rename_i dtls received _
      exact congrArg (·, Except.ok ()) (fed received { session with dtls := some dtls })

theorem blind_startTransportsOnSelectedPair :
    Blind earlier within (startTransportsOnSelectedPair now : SessionM rtc Unit) := by
  have took : Blind earlier within (takeCertificate : SessionM rtc rtc.Certificate) := by
    intro session
    simp only [Fallible.IgnoresAt, takeCertificate, recast]
    split <;> rfl
  refine Fallible.Ignores.read (fun _ => rfl) fun session => ?_
  split
  · refine Fallible.Ignores.bind (.modify fun _ => rfl) fun _ => ?_
    refine Fallible.Ignores.bind ?_ fun _ => ?_
    · refine took.bind fun certificate => ?_
      refine Fallible.Ignores.read (fun _ => rfl) fun session => ?_
      refine Fallible.Ignores.bind (.ofExcept _) fun dtls => ?_
      refine Fallible.Ignores.bind (.ofExcept _) fun sctp => ?_
      exact .modify fun _ => rfl
    · refine Fallible.Ignores.read (fun _ => rfl) fun started => ?_
      refine Fallible.Ignores.bind (.modify fun _ => rfl) fun _ => ?_
      exact Fallible.compositional_ignores.each fun packet => blind_readDtls packet now
  · exact .pure ()

theorem blind_transmit : Blind earlier within (transmit now : SessionM rtc Unit) := by
  refine Fallible.Ignores.bind (.modify fun _ => rfl) fun _ => ?_
  refine Fallible.Ignores.read (fun _ => rfl) fun session => ?_
  split
  · exact .pure ()
  · refine Fallible.compositional_ignores.each fun packet session => ?_
    simp only [Fallible.IgnoresAt, writePacket, recast]
    split <;> rfl

theorem flushDtls_recast : (session.recast earlier within).flushDtls = session.flushDtls.recast earlier within := by
  simp only [flushDtls, recast]
  split
  · rfl
  · simp only [List.append_assoc]

theorem fail_recast : (session.recast earlier within).fail = session.fail.recast earlier within := by
  cases flag : session.channels.failedEmitted with
  | true => simp only [fail, recast, flag, if_true]
  | false => simp only [fail, recast, push, flag, Bool.false_eq_true, if_false, List.append_assoc]

theorem pollIce_recast : (session.recast earlier within).pollIce = session.pollIce.recast earlier within := by
  have polled : (session.recast earlier within).polled = session.polled.recast earlier within := by
    simp only [Session.polled, recast, List.append_assoc]
  rw [pollIce_eq, pollIce_eq, polled, fail_recast]
  show (if session.iceLost then _ else _) = _
  split <;> rfl

theorem blind_pumpLayers : Blind earlier within (pumpLayers now : SessionM rtc Bool) := by
  refine Fallible.Ignores.bind ?_ fun _ => ?_
  · exact Fallible.Ignores.bind (.modify fun session => pollIce_recast session) fun _ => blind_startTransportsOnSelectedPair now
  refine Fallible.Ignores.read (fun _ => rfl) fun session => ?_
  split
  · refine (blind_onStreams false (StreamState.opening_blind.handleEvents now session.isControlling)).bind fun failed => ?_
    refine (blind_onStreams () (StreamState.blind_drainDcepAndData now)).bind fun _ => ?_
    refine (blind_transmit now).bind fun _ => ?_
    exact Fallible.Ignores.bind (.modify fun session => flushDtls_recast session) fun _ => .pure failed
  · exact .pure false

theorem parts_blind {input : SessionInput Candidate} :
    Parts input (recast earlier within) fun _ => Fallible.Ignores (recast earlier within : Session rtc → Session rtc) where
  toCompositional := Fallible.compositional_ignores
  unseen _ := ⟨rfl, rfl, rfl⟩
  ice operation := blind_onIce operation
  streams stream channel data now := blind_onStreams () (StreamState.opening_blind.sendFrames now stream channel data)
  reads data _ now _ _ := by
    refine ⟨blind_readDtls data now, .modify fun session => ?_⟩
    unfold bufferEarly
    rw [show (session.recast earlier within).earlyPackets = session.earlyPackets from rfl]
    split <;> rfl
  size _ _ := rfl
  dtlsTimeout _ _ := rfl
  sctpTimeout _ _ := rfl

/-! ### The deadline -/

-- the deadline is the same, or is over because readiness is announced
def Timeless (within : Duration → Duration) (session : Session rtc) : Prop :=
  within session.establishWithin = session.establishWithin ∨ session.channels.readyEmitted = true

theorem Timeless.advances (timeless : before.Timeless within) (advances : Advances before after) :
    after.Timeless within := by
  refine timeless.imp (fun same => ?_) (advances.emitted_mono .ready)
  rw [advances.within, same]

theorem Timeless.establishDeadline {session : Session rtc} (timeless : session.Timeless within) :
    (session.recast earlier within).establishDeadline = session.establishDeadline := by
  rcases timeless with same | ready
  · simp only [Session.establishDeadline, recast, same]
  · simp only [Session.establishDeadline, recast, ready, Bool.true_or, if_true]

theorem announceReady_recast :
    (session.recast earlier within).announceReady = session.announceReady.recast earlier within := by
  unfold announceReady
  rw [show (session.recast earlier within).channels = session.channels from rfl]
  split
  · simp only [push, recast, List.append_assoc]
  · rfl

theorem Timeless.checkDeadline {session : Session rtc} (timeless : session.Timeless within) (now : Instant) :
    (session.recast earlier within).checkDeadline now = (session.checkDeadline now).recast earlier within := by
  simp only [Session.checkDeadline, timeless.establishDeadline]
  split
  · split
    · exact fail_recast session
    · rfl
  · rfl

theorem Timeless.conclude {session : Session rtc} (timeless : session.Timeless within) (now : Instant) (failed : Bool) :
    (session.recast earlier within).conclude now failed = (session.conclude now failed).recast earlier within := by
  have settled (session : Session rtc) (timeless : session.Timeless within) :
      (session.recast earlier within).announceReady.checkDeadline now =
        (session.announceReady.checkDeadline now).recast earlier within := by
    rw [announceReady_recast, (timeless.advances (advances_announceReady session)).checkDeadline]
  cases failed with
  | true =>
    show (session.recast earlier within).fail.announceReady.checkDeadline now = _
    rw [fail_recast, settled session.fail (timeless.advances (calm_fail session).advances)]
    rfl
  | false => exact settled session timeless

theorem Timeless.pushWait {session : Session rtc} (timeless : session.Timeless within) (now : Instant) :
    (session.recast earlier within).pushWait now = (session.pushWait now).recast earlier within := by
  have polled : (session.recast earlier within).pollTimeout =
      (session.pollTimeout.1.recast earlier within, session.pollTimeout.2) := by
    simp only [pollTimeout, timeless.establishDeadline]
    rfl
  unfold Session.pushWait
  rw [polled]
  cases session.pollTimeout with
  | mk next deadline =>
    cases deadline with
    | none => rfl
    | some deadline => simp only [push, recast, List.append_assoc]

theorem Timeless.afterPump {session : Session rtc} (timeless : session.Timeless within) (input : SessionInput Candidate) :
    (session.recast earlier within).afterPump input = (session.afterPump input).recast earlier within := by
  cases input with
  | remoteDescription remote candidates now => exact timeless.pushWait now
  | timeout now => exact timeless.pushWait now
  | _ => rfl

/-- A call does the same behind any outputs, and once readiness is announced with any deadline. -/
theorem recast_handle {session : Session rtc} (timeless : session.Timeless within)
    (input : SessionInput Candidate) : Fallible.IgnoresAt (recast earlier within) (handle input) session := by
  rw [handle_eq]
  have unready : Unready session session := ⟨refl_of Advances session, rfl⟩
  have blind : Blind earlier within (beforePump input : SessionM rtc (Option Instant)) :=
    parts_blind.beforePump fun _ _ _ _ _ => rfl
  refine (blind session).bind fun pumps before outcome => ?_
  have first := (triple_beforePump input).ok unready outcome
  cases pumps with
  | none => rfl
  | some now =>
    dsimp only
    rw [pump_eq_layers, Fallible.bind_assoc]
    refine (blind_pumpLayers now before).bind fun failed after pumped => ?_
    have calm := calm_pumpLayers now before
    rw [pumped] at calm
    have still := (timeless.advances first.1).advances calm.advances
    have concluded := (first.calm calm).conclude now failed
    refine congrArg (·, Except.ok ()) ?_
    show ((after.recast earlier within).conclude now failed).afterPump input = ((after.conclude now failed).afterPump input).recast earlier within
    rw [still.conclude, (timeless.advances concluded.advances).afterPump]

end

/-! ## When the clock starts -/

def takesCandidates (agent : rtc.Agent) : List Candidate → Bool
  | [] => true
  | candidate :: rest =>
    match rtc.addRemoteCandidate agent candidate with
    | (agent, .ok ()) => takesCandidates agent rest
    | (_, .error _) => false

/-- ICE takes the credentials and every candidate of a description. -/
def takesDescription (agent : rtc.Agent) (remote : Description) (candidates : List Candidate) : Bool :=
  match rtc.setRemoteCredentials agent remote.ice.ufrag remote.ice.pwd with
  | (agent, .ok ()) => takesCandidates agent candidates
  | (_, .error _) => false

-- the time of an input whose description ICE takes
def describedAt (session : Session rtc) : SessionInput Candidate → Option Instant
  | .remoteDescription remote candidates now =>
    if takesDescription session.ice remote candidates then some now else none
  | _ => none

/-- The clock is left as it is. -/
def SameStart (before after : Session rtc) : Prop := after.establishStarted = before.establishStarted

instance : IsPreorder (Session rtc) SameStart where
  refl _ := rfl
  trans _ _ _ left right := Eq.trans right left

theorem started_conclude (failed : Bool) : SameStart session (session.conclude now failed) := by
  refine relates_conclude (fun session => (calm_fail session).started) (fun session => ?_) session now failed
  unfold announceReady
  split <;> rfl

theorem started_pump : Fallible.Obeys SameStart (pump now : SessionM rtc Unit) := by
  rw [pump_eq_layers]
  refine ((calm_pumpLayers now).weaken fun _ _ calm => calm.started).bind fun failed => ?_
  exact .modify fun session => started_conclude session now failed

theorem started_pumpWait : Fallible.Obeys SameStart (do pump now; .modify (·.pushWait now) : SessionM rtc Unit) :=
  (started_pump now).bind fun _ => .modify fun session => (steady_pushWait session now).started

theorem onIce_eq (session : Session rtc) {agent : rtc.Agent} {result : Except String Unit}
    (outcome : operation session.ice = (agent, result)) :
    onIce rtc operation session = ({ session with ice := agent }, result.mapError .other) := by
  rw [onIce, outcome]

-- candidates touch the agent only
theorem each_addRemoteCandidate :
    ∃ agent, (Fallible.each candidates (fun candidate => onIce rtc (rtc.addRemoteCandidate · candidate)) session).1 =
        { session with ice := agent } ∧
      ((Fallible.each candidates (fun candidate => onIce rtc (rtc.addRemoteCandidate · candidate)) session).2 = .ok () ↔
        takesCandidates session.ice candidates = true) := by
  induction candidates generalizing session with
  | nil => exact ⟨session.ice, rfl, fun _ => rfl, fun _ => rfl⟩
  | cons candidate rest ih =>
    unfold takesCandidates
    cases outcome : rtc.addRemoteCandidate session.ice candidate with
    | mk agent result =>
      have first := onIce_eq (rtc.addRemoteCandidate · candidate) session outcome
      cases result with
      | error e =>
        rw [Fallible.each, show ∀ next, Fallible.bind _ next session = _ from fun next => Fallible.bind_of_error first]
        exact ⟨agent, rfl, by simp⟩
      | ok value =>
        rw [Fallible.each, show ∀ next, Fallible.bind _ next session = _ from fun next => Fallible.bind_of_ok first]
        exact ih { session with ice := agent }

/-- A description that ICE does not take is an error; one that it takes is kept, and the session pumps. -/
theorem setRemoteDescription_cases (now : Instant) : ∃ agent size,
    (takesDescription session.ice remote candidates = false ∧ ∃ error,
      setRemoteDescription remote candidates now session =
        ({ session with ice := agent, remoteMaxMessageSize := size }, .error error)) ∨
    (takesDescription session.ice remote candidates = true ∧
      setRemoteDescription remote candidates now session = (do pump now; .modify (·.pushWait now) : SessionM rtc Unit)
        (expect remote now { session with ice := agent, remoteMaxMessageSize := size })) := by
  unfold setRemoteDescription takesDescription
  cases credentials : rtc.setRemoteCredentials session.ice remote.ice.ufrag remote.ice.pwd with
  | mk agent result =>
    have first := onIce_eq (rtc.setRemoteCredentials · remote.ice.ufrag remote.ice.pwd) session credentials
    cases result with
    | error e =>
      rw [Fallible.bind_of_error first]
      exact ⟨agent, session.remoteMaxMessageSize, .inl ⟨rfl, .other e, rfl⟩⟩
    | ok value =>
      rw [Fallible.bind_of_ok first]
      let size := if remote.sctpMaxMessageSize = 0 then 2 ^ 32 - 1 else remote.sctpMaxMessageSize
      let offered : Session rtc := { session with ice := agent, remoteMaxMessageSize := size }
      obtain ⟨last, left, taken⟩ := each_addRemoteCandidate offered candidates
      rw [Fallible.bind_of_ok (show Fallible.modify _ _ = (offered, .ok ()) from rfl)]
      refine ⟨last, size, ?_⟩
      cases outcome : Fallible.each candidates (fun candidate => onIce rtc (rtc.addRemoteCandidate · candidate)) offered with
      | mk after value =>
        rw [outcome] at taken left
        rw [show after = { offered with ice := last } from left] at outcome
        cases value with
        | error e =>
          have refused : takesCandidates agent candidates = false := by
            rw [← Bool.not_eq_true]
            intro accepted
            cases taken.mpr accepted
          rw [Fallible.bind_of_error outcome]
          exact .inl ⟨refused, e, rfl⟩
        | ok value =>
          rw [Fallible.bind_of_ok outcome]
          exact .inr ⟨taken.mp rfl, rfl⟩

theorem started_setRemoteDescription (now : Instant) :
    (setRemoteDescription remote candidates now session).1.establishStarted =
      session.establishStarted.or (if takesDescription session.ice remote candidates then some now else none) := by
  obtain ⟨agent, size, ⟨refused, e, outcome⟩ | ⟨taken, outcome⟩⟩ :=
    setRemoteDescription_cases session remote candidates now
  · rw [outcome, refused]
    exact Option.or_none.symm
  · rw [outcome, taken]
    exact started_pumpWait now _

theorem obeys_handle {relation : Session rtc → Session rtc → Prop} [IsPreorder (Session rtc) relation]
    {input : SessionInput Candidate} (first : Fallible.Obeys relation (beforePump input : SessionM rtc (Option Instant)))
    (pumps : ∀ now, Fallible.Obeys relation (pump now : SessionM rtc Unit))
    (waits : ∀ now (session : Session rtc), relation session (session.pushWait now)) :
    Fallible.Obeys relation (handle input : SessionM rtc Unit) := by
  rw [handle_eq]
  refine first.bind fun now => ?_
  cases now with
  | none => exact .pure ()
  | some now =>
    exact (pumps now).bind fun _ => .modify (relates_afterPump waits input)

/-- The clock starts with the first description that ICE takes. -/
theorem started_handle :
    (session.step input).1.establishStarted = session.establishStarted.or (session.describedAt input) := by
  cases input with
  | remoteDescription remote candidates now => exact started_setRemoteDescription session remote candidates now
  | _ =>
    have waits (now : Instant) (session : Session rtc) := (steady_pushWait session now).started
    have parts (input : SessionInput Candidate) :
        Parts input id fun _ => Fallible.Obeys (SameStart : Session rtc → Session rtc → Prop) :=
      (@parts_steady _ _ _ isPlain).weaken fun _ _ steady => steady.started
    refine (obeys_handle ((parts _).beforePump ?_) started_pump waits session).trans Option.or_none.symm
    intro _ _ _ impossible
    cases impossible

end Session

end Nethernet
