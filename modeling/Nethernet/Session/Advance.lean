import Nethernet.Session.Opens

/-! What the operations of a session do to its outputs, its flags, its channels and its deadline.

An event is announced in three places only: a failure, the readiness at the end of a pump, and the
deadline after it. Every other operation is `Steady`. -/

set_option autoImplicit false

namespace Nethernet
open Foundation

variable {Candidate : Type} {rtc : Rtc Candidate}

/-! ## Outputs and channels -/

namespace SessionOutput

def isTraffic : SessionOutput → Bool
  | .send _ _ | .wait _ => true
  | .event _ | .message _ _ => false

def isMessage : SessionOutput → Bool
  | .message _ _ => true
  | .send _ _ | .wait _ | .event _ => false

def isEvent : SessionOutput → Bool
  | .event _ => true
  | .send _ _ | .wait _ | .message _ _ => false

end SessionOutput

/-- The outputs grew, by allowed ones. -/
def Appends (allowed : SessionOutput → Bool) (before after : List SessionOutput) : Prop :=
  ∃ new, after = before ++ new ∧ ∀ output ∈ new, allowed output = true

namespace Appends
variable {allowed wider : SessionOutput → Bool} {before after : List SessionOutput}

instance : IsPreorder (List SessionOutput) (Appends allowed) where
  refl before := ⟨[], by simp⟩
  trans := by
    rintro first _ _ ⟨new, rfl, allowedNew⟩ ⟨newer, rfl, allowedNewer⟩
    refine ⟨new ++ newer, List.append_assoc .., ?_⟩
    intro output member
    rcases List.mem_append.mp member with early | late
    · exact allowedNew output early
    · exact allowedNewer output late

theorem weaken (appends : Appends allowed before after) (implied : ∀ output, allowed output = true → wider output = true) :
    Appends wider before after := by
  obtain ⟨new, grown, each⟩ := appends
  exact ⟨new, grown, fun output member => implied output (each output member)⟩

theorem is_prefix (appends : Appends allowed before after) : before <+: after := by
  obtain ⟨new, grown, -⟩ := appends
  exact ⟨new, grown.symm⟩

theorem count_of_disallowed (appends : Appends allowed before after) {output : SessionOutput}
    (disallowed : allowed output = false) : after.count output = before.count output := by
  obtain ⟨new, rfl, each⟩ := appends
  have absent : output ∉ new := by
    intro member
    rw [each output member] at disallowed
    cases disallowed
  rw [List.count_append, List.count_eq_zero_of_not_mem absent, Nat.add_zero]

end Appends

def Channels.emitted (channels : Channels) : SessionEvent → Bool
  | .ready => channels.readyEmitted
  | .failed => channels.failedEmitted

def Channels.bothOpen (channels : Channels) : Bool :=
  channels.reliableStreamId.isSome && channels.unreliableStreamId.isSome

theorem Channels.bothOpen_iff {channels : Channels} :
    channels.bothOpen = true ↔ ∀ channel, (channels.streamId channel).isSome = true := by
  rw [bothOpen, Bool.and_eq_true]
  constructor
  · rintro ⟨reliable, unreliable⟩ channel
    cases channel
    · exact reliable
    · exact unreliable
  · intro all
    exact ⟨all .reliable, all .unreliable⟩

/-- No event is announced and no channel closes. -/
structure Unannounced (allowed : SessionOutput → Bool) (before after : Channels × List SessionOutput) : Prop where
  flags : ∀ event, after.1.emitted event = before.1.emitted event
  opened : ∀ channel, (before.1.streamId channel).isSome = true → (after.1.streamId channel).isSome = true
  appends : Appends allowed before.2 after.2

instance {allowed : SessionOutput → Bool} : IsPreorder _ (Unannounced allowed) where
  refl before := ⟨fun _ => rfl, fun _ known => known, refl_of (Appends allowed) before.2⟩
  trans _ _ _ left right :=
    ⟨fun event => (right.flags event).trans (left.flags event),
      fun channel known => right.opened channel (left.opened channel known),
      trans_of (Appends allowed) left.appends right.appends⟩

/-! ## Streams -/

variable (now : Instant) (state : StreamState rtc) (channel : Channel)

namespace StreamState

def ledger (state : StreamState rtc) : Channels × List SessionOutput := (state.channels, state.output)

def Steady (allowed : SessionOutput → Bool) (before after : StreamState rtc) : Prop :=
  Unannounced allowed before.ledger after.ledger

instance {allowed : SessionOutput → Bool} : IsPreorder (StreamState rtc) (Steady allowed) where
  refl state := refl_of (Unannounced allowed) state.ledger
  trans _ _ _ left right := trans_of (Unannounced allowed) left right

theorem Steady.of_same {allowed : SessionOutput → Bool} {before after : StreamState rtc}
    (same : after.ledger = before.ledger) : Steady allowed before after := by
  rw [Steady, same]
  exact refl_of (Unannounced allowed) before.ledger

section
variable {allowed : SessionOutput → Bool}

theorem opening_steady : Opening rtc id fun _ => Fallible.Obeys (Steady allowed) where
  toCompositional := Fallible.compositional_obeys
  unseen _ := rfl
  write _ _ _ _ _ := .of_same rfl
  openStream stream state := by
    unfold openStream
    split
    · exact .of_same rfl
    · split <;> exact .of_same rfl
  setOpen channel stream state := by
    constructor
    case flags => cases channel <;> exact fun event => by cases event <;> rfl
    case opened => exact fun other known => isSome_setOpen.mpr (.inl known)
    case appends => exact refl_of (Appends allowed) state.output
  pop _ _ := .of_same rfl

theorem steady_acceptStreams : Fallible.Obeys (Steady allowed) (acceptStreams rtc now) :=
  opening_steady.acceptStreams now (fun _ => .of_same rfl) fun _ _ => .of_same rfl

end

/-! ### Draining channels -/

theorem steady_deliver (data : Bytes) : Steady SessionOutput.isMessage state (state.deliver channel data) :=
  ⟨fun _ => rfl, fun _ known => known, [.message channel data], rfl, by simp [SessionOutput.isMessage]⟩

theorem steady_handleChunks (state : StreamState rtc) (chunks : Chunks) :
    Steady SessionOutput.isMessage state (handleChunks channel state chunks) := by
  unfold handleChunks
  split
  · exact .of_same rfl
  · split
    · exact .of_same rfl
    · split
      · exact .of_same rfl
      · rename_i segment _
        unfold handleSegment
        cases channel with
        | reliable =>
          have assembled (reassembly : Message) : Steady SessionOutput.isMessage state
              { state with channels := { state.channels with reassembly := reassembly } } :=
            ⟨fun event => by cases event <;> rfl, fun other known => by cases other <;> exact known,
              refl_of (Appends _) state.output⟩
          dsimp only
          split
          · exact trans_of (Steady _) (assembled _) (steady_deliver _ .reliable _)
          · exact assembled _
          · exact assembled _
        | unreliable =>
          dsimp only
          split
          · exact steady_deliver state .unreliable _
          · exact .of_same rfl

theorem steady_drainChannel : Steady SessionOutput.isMessage state (state.drainChannel channel) := by
  unfold drainChannel
  split
  · exact .of_same rfl
  · rename_i stream _
    split
    · apply List.foldlRecOn (motive := Steady SessionOutput.isMessage state)
      · exact .of_same rfl
      · intro next reached chunks _
        exact trans_of (Steady _) reached (steady_handleChunks channel next chunks)
    · exact .of_same rfl

theorem steady_drainDcepAndData : Fallible.Obeys (Steady SessionOutput.isMessage) (drainDcepAndData rtc now) := by
  apply (steady_acceptStreams now).bind
  intro _
  apply Fallible.Obeys.modify
  intro state
  exact trans_of (Steady _) (steady_drainChannel state .reliable) (steady_drainChannel _ .unreliable)

end StreamState

/-! ## Sessions -/

variable (session : Session rtc) {before after : Session rtc} {relation : Session rtc → Session rtc → Prop}
  (output : SessionOutput)

namespace Session

def ledger (session : Session rtc) : Channels × List SessionOutput := (session.channels, session.output)

/-- Without DTLS there is no association, and no channel is open. -/
def Anchored (session : Session rtc) : Prop :=
  session.dtls = none → session.sctp = none ∧ ∀ channel, session.channels.streamId channel = none

structure Steady (allowed : SessionOutput → Bool) (before after : Session rtc) : Prop where
  unannounced : Unannounced allowed before.ledger after.ledger
  within : after.establishWithin = before.establishWithin
  started : after.establishStarted = before.establishStarted
  anchored : before.Anchored → after.Anchored

instance {allowed : SessionOutput → Bool} : IsPreorder (Session rtc) (Steady allowed) where
  refl session := ⟨refl_of (Unannounced allowed) session.ledger, rfl, rfl, id⟩
  trans _ _ _ left right :=
    ⟨trans_of (Unannounced allowed) left.unannounced right.unannounced, right.within.trans left.within,
      right.started.trans left.started, fun anchored => right.anchored (left.anchored anchored)⟩

-- a change of the layers that starts none
theorem Steady.of_same {allowed : SessionOutput → Bool} {before after : Session rtc}
    (ledger : after.ledger = before.ledger) (within : after.establishWithin = before.establishWithin)
    (started : after.establishStarted = before.establishStarted)
    (layers : after.dtls = none → before.dtls = none ∧ (before.sctp = none → after.sctp = none)) :
    Steady allowed before after := by
  refine ⟨?_, within, started, ?_⟩
  · rw [ledger]
    exact refl_of (Unannounced allowed) before.ledger
  · intro anchored absent
    obtain ⟨wasAbsent, keeps⟩ := layers absent
    obtain ⟨noSctp, closed⟩ := anchored wasAbsent
    refine ⟨keeps noSctp, ?_⟩
    rw [show after.channels = before.channels from congrArg Prod.fst ledger]
    exact closed

section
variable {allowed : SessionOutput → Bool}

theorem steady_onIce (operation : rtc.Agent → rtc.Agent × Except String Unit) :
    Fallible.Obeys (Steady allowed) (onIce rtc operation) :=
  fun _ => .of_same rfl rfl rfl fun absent => ⟨absent, id⟩

theorem steady_onStreams {A : Type} {program : StreamM rtc A}
    (steady : Fallible.Obeys (StreamState.Steady allowed) program) (absent : A) :
    Fallible.Obeys (Steady allowed) (onStreams absent program) := by
  intro session
  unfold onStreams
  split
  · rename_i endpoint remoteAddr association pending present
    refine ⟨steady ⟨association, session.channels, session.output⟩, rfl, rfl, ?_⟩
    intro anchored noDtls
    have missing := (anchored noDtls).1
    rw [present] at missing
    cases missing
  · exact refl_of (Steady allowed) session

/-! ### Transports -/

theorem steady_readDtls (data : Bytes) (now : Instant) :
    Fallible.Obeys (Steady allowed) (readDtls data now : SessionM rtc Unit) := by
  intro session
  unfold readDtls
  split
  · exact refl_of (Steady allowed) session
  · split
    · exact .of_same rfl rfl rfl fun absent => by cases absent
    · rename_i dtls received _
      apply List.foldlRecOn (motive := Steady allowed session)
      · exact .of_same rfl rfl rfl fun absent => by cases absent
      · intro next reached data _
        apply trans_of (Steady allowed) reached
        refine .of_same rfl rfl rfl fun absent => ⟨absent, ?_⟩
        intro none
        rw [handleDtlsEvent, none]
        rfl

theorem steady_startTransports (remoteAddr : SocketAddr) (role : ResolvedRole) (fingerprint : String × String)
    (now : Instant) : Fallible.Obeys (Steady allowed) (startTransports remoteAddr role fingerprint now : SessionM rtc Unit) := by
  have took : Fallible.Obeys (Steady allowed) (takeCertificate : SessionM rtc rtc.Certificate) := by
    intro session
    unfold takeCertificate
    split
    · exact refl_of (Steady allowed) session
    · exact .of_same rfl rfl rfl fun absent => ⟨absent, id⟩
  refine took.bind fun certificate => ?_
  refine Fallible.Obeys.bind .get fun session => ?_
  refine Fallible.Obeys.bind (.ofExcept _) fun dtls => ?_
  refine Fallible.Obeys.bind (.ofExcept _) fun sctp => ?_
  exact Fallible.Obeys.modify fun _ => .of_same rfl rfl rfl fun absent => by cases absent

theorem steady_startTransportsOnSelectedPair :
    Fallible.Obeys (Steady allowed) (startTransportsOnSelectedPair now : SessionM rtc Unit) := by
  refine Fallible.Obeys.bind .get fun session => ?_
  split
  · rename_i remoteAddr role fingerprint _ _ _
    refine Fallible.Obeys.bind (.modify fun _ => .of_same rfl rfl rfl fun absent => ⟨absent, id⟩) fun _ => ?_
    refine (steady_startTransports remoteAddr role fingerprint now).bind fun _ => ?_
    refine Fallible.Obeys.bind .get fun started => ?_
    refine Fallible.Obeys.bind (.modify fun _ => .of_same rfl rfl rfl fun absent => ⟨absent, id⟩) fun _ => ?_
    exact Fallible.Obeys.each fun packet _ => steady_readDtls packet now
  · exact .pure ()

/-! ### Pumping -/

theorem steady_writePacket (packet : Bytes) :
    Fallible.Obeys (Steady allowed) (writePacket now packet : SessionM rtc Unit) := by
  intro session
  have popped : Steady allowed session { session with sctp := session.sctp.map SctpLayer.popTransmit } := by
    refine .of_same rfl rfl rfl fun absent => ⟨absent, ?_⟩
    intro none
    rw [none]
    rfl
  unfold writePacket
  dsimp only
  split
  · exact popped
  · apply trans_of (Steady allowed) popped
    exact .of_same rfl rfl rfl fun absent => by cases absent

theorem steady_transmit : Fallible.Obeys (Steady allowed) (transmit now : SessionM rtc Unit) := by
  have collected (session : Session rtc) :
      Steady allowed session { session with sctp := session.sctp.map (·.collectTransmits now) } := by
    refine .of_same rfl rfl rfl fun absent => ⟨absent, ?_⟩
    intro none
    rw [none]
    rfl
  refine Fallible.Obeys.bind (.modify collected) fun _ => ?_
  refine Fallible.Obeys.bind .get fun session => ?_
  split
  · exact .pure ()
  · exact Fallible.Obeys.each fun packet _ => steady_writePacket now packet

end

-- sends are traffic
theorem appends_sends (output : List SessionOutput) (sends : List (Bytes × SocketAddr)) :
    Appends SessionOutput.isTraffic output (output ++ sends.map fun send => .send send.1 send.2) := by
  refine ⟨_, rfl, ?_⟩
  intro sent member
  obtain ⟨send, -, rfl⟩ := List.mem_map.mp member
  rfl

theorem steady_flushDtls : Steady SessionOutput.isTraffic session session.flushDtls := by
  unfold flushDtls
  split
  · exact refl_of (Steady _) session
  · rename_i dtls present
    refine ⟨⟨fun _ => rfl, fun _ known => known, appends_sends session.output _⟩, rfl, rfl, ?_⟩
    intro anchored absent
    cases absent

theorem steady_pushWait (now : Instant) : Steady SessionOutput.isTraffic session (session.pushWait now) := by
  obtain ⟨ice, left | ⟨duration, left⟩⟩ := pushWait_cases session now
  · rw [left]
    exact .of_same rfl rfl rfl fun absent => ⟨absent, id⟩
  · rw [left]
    exact ⟨⟨fun _ => rfl, fun _ known => known, [.wait duration], rfl, by simp [SessionOutput.isTraffic]⟩, rfl, rfl, id⟩

-- traffic and messages, but no events
def isPlain (output : SessionOutput) : Bool := !output.isEvent

theorem isPlain_of_isTraffic (traffic : output.isTraffic = true) : isPlain output = true := by
  cases output <;> first | rfl | cases traffic

theorem isPlain_of_isMessage (message : output.isMessage = true) : isPlain output = true := by
  cases output <;> first | rfl | cases message

theorem Steady.weaken {allowed wider : SessionOutput → Bool} (steady : Steady allowed before after)
    (implied : ∀ output, allowed output = true → wider output = true) : Steady wider before after :=
  ⟨⟨steady.unannounced.flags, steady.unannounced.opened, steady.unannounced.appends.weaken implied⟩, steady.within,
    steady.started, steady.anchored⟩

theorem steady_pumpSctp : Fallible.Obeys (Steady isPlain) (pumpSctp now : SessionM rtc Bool) := by
  refine Fallible.Obeys.bind .get fun session => ?_
  split
  · refine (steady_onStreams (StreamState.opening_steady.handleEvents now session.isControlling) false).bind fun failed => ?_
    have drained : Fallible.Obeys (Steady SessionOutput.isMessage)
        (onStreams () (StreamState.drainDcepAndData rtc now)) :=
      steady_onStreams (StreamState.steady_drainDcepAndData now) ()
    refine (drained.weaken fun _ _ steady => steady.weaken isPlain_of_isMessage).bind fun _ => ?_
    refine (steady_transmit now).bind fun _ => ?_
    refine Fallible.Obeys.bind (.modify fun session => ?_) fun _ => .pure failed
    exact (steady_flushDtls session).weaken isPlain_of_isTraffic
  · exact .pure false

/-! ### What comes before a pump -/

/-- A property of programs that the parts of a call before its pump have. -/
structure Parts (input : SessionInput Candidate) (change : Session rtc → Session rtc)
    (property : (A : Type) → SessionM rtc A → Prop) : Prop extends Fallible.Compositional change property where
  unseen : ∀ session, (change session).channels = session.channels ∧ (change session).dtls = session.dtls ∧
    (change session).sctp = session.sctp
  ice : ∀ operation, property Unit (onIce rtc operation)
  streams : ∀ stream channel data now, property Unit (onStreams () (sendFrames stream channel data now))
  reads : ∀ data source now, input = .packet data source now → rtc.isStunMessage data = false →
    property Unit (readDtls data now) ∧ property Unit (.modify (bufferEarly data))
  size : ∀ size, property Unit (.modify fun session => { session with remoteMaxMessageSize := size })
  dtlsTimeout : ∀ now, property Unit (.modify fun session =>
    { session with dtls := session.dtls.map (rtc.dtlsTimeout · now) })
  sctpTimeout : ∀ now, property Unit (.modify fun session =>
    { session with sctp := session.sctp.map (·.handleTimeout now) })

-- what is kept of a description until the transports start
def expect (remote : Description) (now : Instant) (session : Session rtc) : Session rtc :=
  { session with
    pendingRoleFingerprint := some (.fromRemoteAnnounced remote.dtlsRole, remote.fingerprint)
    establishStarted := session.establishStarted.or (some now) }

section
variable {input : SessionInput Candidate}

theorem Parts.weaken {weaker : Session rtc → Session rtc → Prop} [IsPreorder (Session rtc) weaker]
    (parts : Parts input id fun _ => Fallible.Obeys relation)
    (implied : ∀ before after, relation before after → weaker before after) :
    Parts input id fun _ => Fallible.Obeys weaker where
  toCompositional := Fallible.compositional_obeys
  unseen _ := ⟨rfl, rfl, rfl⟩
  ice operation := (parts.ice operation).weaken implied
  streams stream channel data now := (parts.streams stream channel data now).weaken implied
  reads data source now same other :=
    ⟨(parts.reads data source now same other).1.weaken implied, (parts.reads data source now same other).2.weaken implied⟩
  size size := (parts.size size).weaken implied
  dtlsTimeout now := (parts.dtlsTimeout now).weaken implied
  sctpTimeout now := (parts.sctpTimeout now).weaken implied

variable {change : Session rtc → Session rtc} {property : (A : Type) → SessionM rtc A → Prop}

theorem Parts.beforePump (parts : Parts input change property)
    (expects : ∀ remote candidates now, input = .remoteDescription remote candidates now →
      property Unit (.modify (expect remote now))) : property (Option Instant) (beforePump input) := by
  cases input with
  | packet data source now =>
    dsimp only [Session.beforePump]
    split
    · exact parts.bind (parts.ice _) fun _ => parts.pure _
    · rename_i other
      obtain ⟨reads, early⟩ := parts.reads data source now rfl (Bool.not_eq_true _ ▸ other)
      refine parts.read (fun session => ?_) fun session => ?_
      · rw [(parts.unseen session).2.1]
      · split
        · exact parts.bind early fun _ => parts.pure _
        · exact parts.bind reads fun _ => parts.pure _
  | remoteDescription remote candidates now =>
    refine parts.bind (parts.ice _) fun _ => ?_
    refine parts.bind (parts.size _) fun _ => ?_
    refine parts.bind (parts.each fun candidate => parts.ice _) fun _ => ?_
    exact parts.bind (expects remote candidates now rfl) fun _ => parts.pure _
  | remoteCandidate candidate now => exact parts.bind (parts.ice _) fun _ => parts.pure _
  | send channel data now =>
    refine parts.bind (parts.read (fun session => ?_) fun session => ?_) fun _ => parts.pure _
    · rw [(parts.unseen session).1, (parts.unseen session).2.2]
    · split
      · exact parts.ofExcept _
      · rename_i stream _
        split
        · exact parts.ofExcept _
        · exact parts.ofExcept _
        · exact parts.streams stream channel data now
  | timeout now =>
    refine parts.bind (parts.ice _) fun _ => ?_
    refine parts.bind (parts.dtlsTimeout now) fun _ => ?_
    exact parts.bind (parts.sctpTimeout now) fun _ => parts.pure _

end

theorem relates_afterPump [IsPreorder (Session rtc) relation]
    (waits : ∀ now (session : Session rtc), relation session (session.pushWait now)) (input : SessionInput Candidate)
    (session : Session rtc) : relation session (session.afterPump input) := by
  cases input with
  | remoteDescription remote candidates now => exact waits now session
  | timeout now => exact waits now session
  | _ => exact refl_of relation session

theorem parts_steady {input : SessionInput Candidate} {allowed : SessionOutput → Bool} :
    Parts input id fun _ => Fallible.Obeys (Steady allowed : Session rtc → Session rtc → Prop) where
  toCompositional := Fallible.compositional_obeys
  unseen _ := ⟨rfl, rfl, rfl⟩
  ice := steady_onIce
  streams stream channel data now := steady_onStreams (StreamState.opening_steady.sendFrames now stream channel data) ()
  reads data _ now _ _ := by
    refine ⟨steady_readDtls data now, .modify fun session => ?_⟩
    unfold bufferEarly
    split
    · exact .of_same rfl rfl rfl fun absent => ⟨absent, id⟩
    · exact refl_of (Steady allowed) session
  size _ _ := .of_same rfl rfl rfl fun absent => ⟨absent, id⟩
  dtlsTimeout _ _ := .of_same rfl rfl rfl fun absent => ⟨Option.map_eq_none_iff.mp absent, id⟩
  sctpTimeout _ _ :=
    .of_same rfl rfl rfl fun absent => ⟨absent, fun none => congrArg (Option.map _) none⟩

/-! ### Events -/

/-- An event is announced at most once, with its flag; nothing announced is taken back. -/
structure Advances (before after : Session rtc) : Prop where
  output : before.output <+: after.output
  emitted : ∀ event, after.output.count (.event event) + (before.channels.emitted event).toNat =
    before.output.count (.event event) + (after.channels.emitted event).toNat
  opened : ∀ channel, (before.channels.streamId channel).isSome = true → (after.channels.streamId channel).isSome = true
  within : after.establishWithin = before.establishWithin
  started : ∀ since, before.establishStarted = some since → after.establishStarted = some since
  anchored : before.Anchored → after.Anchored

instance : IsPreorder (Session rtc) Advances where
  refl _ := ⟨List.prefix_rfl, fun _ => rfl, fun _ known => known, rfl, fun _ known => known, id⟩
  trans _ _ _ left right :=
    { output := left.output.trans right.output
      emitted := fun event => by
        have earlier := left.emitted event
        have later := right.emitted event
        omega
      opened := fun channel known => right.opened channel (left.opened channel known)
      within := right.within.trans left.within
      started := fun since known => right.started since (left.started since known)
      anchored := fun anchored => right.anchored (left.anchored anchored) }

theorem Steady.advances (steady : Steady isPlain before after) : Advances before after where
  output := steady.unannounced.appends.is_prefix
  emitted event := by
    have same := steady.unannounced.appends.count_of_disallowed (show isPlain (.event event) = false from rfl)
    have flag : after.channels.emitted event = before.channels.emitted event := steady.unannounced.flags event
    rw [flag]
    exact congrArg (· + _) same
  opened := steady.unannounced.opened
  within := steady.within
  started since known := steady.started.trans known
  anchored := steady.anchored

theorem Advances.emitted_mono (advances : Advances before after) (event : SessionEvent)
    (was : before.channels.emitted event = true) : after.channels.emitted event = true := by
  have counted := advances.emitted event
  have grown : before.output.count (.event event) ≤ after.output.count (.event event) :=
    advances.output.sublist.count_le _
  rw [was, Bool.toNat_true] at counted
  cases flag : after.channels.emitted event with
  | true => rfl
  | false =>
    rw [flag, Bool.toNat_false] at counted
    omega

/-- The readiness is left as it is. -/
structure Calm (before after : Session rtc) : Prop where
  advances : Advances before after
  ready : after.channels.readyEmitted = before.channels.readyEmitted
  started : after.establishStarted = before.establishStarted

instance : IsPreorder (Session rtc) Calm where
  refl session := ⟨refl_of Advances session, rfl, rfl⟩
  trans _ _ _ left right :=
    ⟨trans_of Advances left.advances right.advances, right.ready.trans left.ready, right.started.trans left.started⟩

theorem Steady.calm (steady : Steady isPlain before after) : Calm before after :=
  ⟨steady.advances, steady.unannounced.flags .ready, steady.started⟩

/-- A flag that was not set is set, and its event queued. -/
theorem Advances.announce {session : Session rtc} {channels : Channels} {event : SessionEvent}
    (fresh : session.channels.emitted event = false) (set : channels.emitted event = true)
    (others : ∀ other, other ≠ event → channels.emitted other = session.channels.emitted other)
    (ids : ∀ channel, channels.streamId channel = session.channels.streamId channel) :
    Advances session ({ session with channels := channels }.push (.event event)) := by
  constructor
  case output => exact ⟨[.event event], rfl⟩
  case emitted =>
    intro other
    show List.count (.event other) (session.output ++ [.event event]) + _ = _ + (channels.emitted other).toNat
    rw [List.count_append]
    by_cases same : other = event
    · rw [same, fresh, set, List.count_singleton_self]
      rfl
    · have different : SessionOutput.event event ≠ .event other := fun equal => same (SessionOutput.event.inj equal).symm
      rw [others other same, List.count_singleton, if_neg (by simpa using different)]
      rfl
  case opened =>
    intro channel known
    show (channels.streamId channel).isSome = true
    rw [ids]
    exact known
  case within => rfl
  case started => exact fun _ known => known
  case anchored =>
    intro anchored absent
    obtain ⟨noSctp, closed⟩ := anchored absent
    exact ⟨noSctp, fun channel => (ids channel).trans (closed channel)⟩

theorem calm_fail : Calm session session.fail := by
  unfold fail
  split
  · exact refl_of Calm session
  · rename_i fresh
    refine ⟨Advances.announce ((Bool.not_eq_true _).mp fresh) rfl ?_ ?_, rfl, rfl⟩
    · intro other different
      cases other
      · rfl
      · exact absurd rfl different
    · intro channel
      cases channel <;> rfl

theorem calm_pollIce : Calm session session.pollIce := by
  have polled : Steady isPlain session session.polled :=
    ⟨⟨fun _ => rfl, fun _ known => known, (appends_sends session.output _).weaken isPlain_of_isTraffic⟩, rfl, rfl, id⟩
  rw [pollIce_eq]
  split
  · exact trans_of Calm polled.calm (calm_fail _)
  · exact polled.calm

end Session

end Nethernet
