import Nethernet.Session.Connection
import Nethernet.Session.Dtls
import Nethernet.Session.Transports

/-! Whose certificate DTLS is made to accept, and whose identity the connection reports. -/

set_option autoImplicit false

namespace Nethernet
open Foundation

/-- A DTLS transport keeps the fingerprint it was made with. -/
structure Pinning {Candidate : Type} (rtc : Rtc Candidate) where
  pinned : rtc.Dtls → String × String
  made : ∀ {localAddr remoteAddr role certificate fingerprint now dtls},
    rtc.dtlsNew localAddr remoteAddr role certificate fingerprint now = .ok dtls → pinned dtls = fingerprint
  read : ∀ dtls data now, pinned (rtc.dtlsRead dtls data now).1 = pinned dtls
  written : ∀ dtls packet now, pinned (rtc.dtlsWrite dtls packet now).1 = pinned dtls
  transmitted : ∀ dtls, pinned (rtc.dtlsTransmits dtls).1 = pinned dtls
  timedOut : ∀ dtls now, pinned (rtc.dtlsTimeout dtls now) = pinned dtls

/-! ## The fingerprint of a session -/

namespace Session
variable {Candidate : Type} {rtc : Rtc Candidate} (pinning : Pinning rtc)

-- the fingerprint that DTLS was made with, or without DTLS the one that waits for it
def fingerprint (session : Session rtc) : Option (String × String) :=
  match session.dtls with
  | some dtls => some (pinning.pinned dtls)
  | none => session.pendingRoleFingerprint.map Prod.snd

/-- The transport stays, and the fingerprint too unless it is lost before DTLS was made. -/
structure Pins (before after : Session rtc) : Prop where
  stays : before.dtls.isSome = true → after.dtls.isSome = true
  same : after.fingerprint pinning = before.fingerprint pinning ∨ after.fingerprint pinning = none

instance : IsPreorder (Session rtc) (Pins pinning) where
  refl _ := ⟨id, .inl rfl⟩
  trans _ _ _ left right := by
    refine ⟨fun there => right.stays (left.stays there), ?_⟩
    rcases right.same with same | lost
    · rw [same]
      exact left.same
    · exact .inr lost

theorem fingerprint_of_dtls {session : Session rtc} {dtls : rtc.Dtls} (there : session.dtls = some dtls) :
    session.fingerprint pinning = some (pinning.pinned dtls) := by
  unfold fingerprint
  rw [there]

theorem fingerprint_of_isSome {session : Session rtc} (there : session.dtls.isSome = true) :
    ∃ fingerprint, session.fingerprint pinning = some fingerprint := by
  obtain ⟨dtls, there⟩ := Option.isSome_iff_exists.mp there
  exact ⟨_, fingerprint_of_dtls pinning there⟩

variable {pinning}

theorem Pins.of_same {before after : Session rtc} (dtls : after.dtls = before.dtls)
    (pending : after.pendingRoleFingerprint = before.pendingRoleFingerprint) : Pins pinning before after := by
  refine ⟨fun there => dtls ▸ there, .inl ?_⟩
  unfold fingerprint
  rw [dtls, pending]

theorem Pins.of_dtls {before after : Session rtc} {old new : rtc.Dtls} (was : before.dtls = some old)
    (is : after.dtls = some new) (kept : pinning.pinned new = pinning.pinned old) : Pins pinning before after := by
  refine ⟨fun _ => by rw [is]; rfl, .inl ?_⟩
  rw [fingerprint_of_dtls pinning was, fingerprint_of_dtls pinning is, kept]

variable (pinning)

theorem fingerprint_eq (session : Session rtc) : session.fingerprint pinning =
    (session.dtls.map pinning.pinned).or (session.pendingRoleFingerprint.map Prod.snd) := by
  unfold fingerprint
  cases session.dtls <;> rfl

theorem Keeps.pins {before after : Session rtc} (keeps : Keeps before after) : Pins pinning before after := by
  have same : after.dtls.map pinning.pinned = before.dtls.map pinning.pinned := by
    apply keeps.observe
    intro old new works
    cases works with
    | write packet now => exact pinning.written old packet now
    | transmit => exact pinning.transmitted old
    | timeout now => exact pinning.timedOut old now
  constructor
  · have present := congrArg Option.isSome same
    rw [Option.isSome_map, Option.isSome_map] at present
    exact present.trans
  · rw [fingerprint_eq, fingerprint_eq, same, keeps.pending]
    exact .inl rfl

theorem pins_readDtls (data : Bytes) (now : Instant) :
    Fallible.Obeys (Pins pinning) (readDtls data now : SessionM rtc Unit) := by
  intro session
  unfold readDtls
  split
  · exact refl_of (Pins pinning) session
  · rename_i dtls there
    have kept := pinning.read dtls data now
    split
    · rename_i outcome
      rw [outcome] at kept
      exact .of_dtls there rfl kept
    · rename_i outcome
      rw [outcome] at kept
      apply List.foldlRecOn (motive := Pins pinning session)
      · exact .of_dtls there rfl kept
      · intro next reached data _
        apply trans_of (Pins pinning) reached
        exact .of_same rfl rfl

/-! ## Starting the transports -/

-- the fingerprint went into DTLS, or is gone
def Settled (fingerprint : String × String) (session : Session rtc) : Prop :=
  (session.dtls.isSome = true ∧ session.fingerprint pinning = some fingerprint) ∨
    (session.dtls = none ∧ session.fingerprint pinning = none)

theorem Settled.pins {fingerprint : String × String} {before after : Session rtc}
    (absent : before.dtls = none) (waits : before.fingerprint pinning = some fingerprint)
    (settled : Settled pinning fingerprint after) : Pins pinning before after := by
  refine ⟨fun there => absurd there (by simp [absent]), ?_⟩
  rcases settled with ⟨-, kept⟩ | ⟨-, gone⟩
  · exact .inl (kept.trans waits.symm)
  · exact .inr gone

-- no transport, and no fingerprint for one
def Idle (session : Session rtc) : Prop := session.dtls = none ∧ session.pendingRoleFingerprint = none

theorem Idle.settled {session : Session rtc} (idle : Idle session) (fingerprint : String × String) :
    Settled pinning fingerprint session := by
  refine .inr ⟨idle.1, ?_⟩
  unfold Session.fingerprint
  rw [idle.1, idle.2]
  rfl

variable (now : Instant)

theorem pins_startTransportsOnSelectedPair :
    Fallible.Obeys (Pins pinning) (startTransportsOnSelectedPair now : SessionM rtc Unit) := by
  intro session
  rcases startTransportsOnSelectedPair_cases session now with same | ⟨absent, role, fingerprint, waits, started⟩
  · rw [same]
    exact refl_of (Pins pinning) session
  · have waiting : session.fingerprint pinning = some fingerprint := by
      rw [fingerprint_eq, absent, waits]
      rfl
    rcases started with ⟨certificate, error, failed⟩ | ⟨remoteAddr, certificate, dtls, begun, -, -, made, there, started⟩
    · rw [failed]
      have idle : Idle { session with pendingRoleFingerprint := none, certificate := certificate } := ⟨absent, rfl⟩
      exact (idle.settled pinning fingerprint).pins pinning absent waiting
    · rw [started]
      -- the packets that came early are read once DTLS is there
      have reads : Fallible.Obeys (Pins pinning) (.each session.earlyPackets (readDtls · now) : SessionM rtc Unit) :=
        .each fun packet _ => pins_readDtls pinning packet now
      refine trans_of (Pins pinning) (Settled.pins pinning absent waiting ?_) (reads _)
      rw [Settled, there, fingerprint_of_dtls pinning there, pinning.made made]
      exact .inl ⟨rfl, rfl⟩

variable {input : SessionInput Candidate}

theorem parts_pins : Parts input id fun _ => Fallible.Obeys (Pins pinning) := by
  refine parts_of_keeps (fun _ _ keeps => keeps.pins pinning) fun data _ now _ _ => ?_
  refine ⟨pins_readDtls pinning data now, .modify fun session => ?_⟩
  unfold bufferEarly
  split
  · exact .of_same rfl rfl
  · exact refl_of (Pins pinning) session

theorem pins_pump : Fallible.Obeys (Pins pinning) (pump now : SessionM rtc Unit) :=
  obeys_pump (fun _ _ keeps => keeps.pins pinning) now (pins_startTransportsOnSelectedPair pinning now)

theorem pins_pushWait (session : Session rtc) : Pins pinning session (session.pushWait now) :=
  (keeps_pushWait now session).pins pinning

theorem pins_handle (session : Session rtc)
    (other : ∀ remote candidates now, input ≠ .remoteDescription remote candidates now) :
    Pins pinning session (session.step input).1 := by
  refine obeys_handle ((parts_pins pinning).beforePump ?_) (pins_pump pinning) (pins_pushWait pinning) session
  intro remote candidates now same
  exact absurd same (other remote candidates now)

/-- A description replaces the fingerprint that waits, if ICE takes it and DTLS is not there yet. -/
theorem fingerprint_setRemoteDescription (session : Session rtc) (remote : Description) (candidates : List Candidate)
    (now : Instant) :
    (takesDescription session.ice remote candidates = true ∧ session.dtls = none ∧
      ((setRemoteDescription remote candidates now session).1.fingerprint pinning = some remote.fingerprint ∨
        (setRemoteDescription remote candidates now session).1.fingerprint pinning = none)) ∨
    ((session.dtls.isSome = true ∨ takesDescription session.ice remote candidates = false) ∧
      Pins pinning session (setRemoteDescription remote candidates now session).1) := by
  obtain ⟨agent, size, ⟨refused, e, outcome⟩ | ⟨taken, outcome⟩⟩ :=
    setRemoteDescription_cases session remote candidates now
  · rw [outcome]
    exact .inr ⟨.inr refused, .of_same rfl rfl⟩
  · rw [outcome]
    have pins := (pins_pump pinning now).bind (fun _ => .modify (pins_pushWait pinning now))
      (expect remote now { session with ice := agent, remoteMaxMessageSize := size })
    rcases Option.eq_none_or_eq_some session.dtls with absent | ⟨dtls, there⟩
    · refine .inl ⟨taken, absent, ?_⟩
      have waits : (expect remote now { session with ice := agent, remoteMaxMessageSize := size }).fingerprint pinning =
          some remote.fingerprint := by
        unfold fingerprint expect
        dsimp only
        rw [absent]
        rfl
      rw [← waits]
      exact pins.same
    · refine .inr ⟨.inl (by rw [there]; rfl), trans_of (Pins pinning) (.of_dtls there ?_ rfl) pins⟩
      exact there

theorem refused_setRemoteDescription {session : Session rtc} {remote : Description} {candidates : List Candidate}
    (refused : takesDescription session.ice remote candidates = false) (now : Instant) :
    ∃ error, (setRemoteDescription remote candidates now session).2 = .error error := by
  obtain ⟨agent, size, ⟨-, error, outcome⟩ | ⟨taken, -⟩⟩ := setRemoteDescription_cases session remote candidates now
  · exact ⟨error, by rw [outcome]⟩
  · rw [refused] at taken
    cases taken

end Session

/-! ## Answers -/

variable {crates : WebrtcCrates} {rtc : Rtc crates.Candidate} {description : Description} {connection : Connection rtc}
  {input : ConnectionInput}

namespace Connection

-- the description in an answer for this connection
def answered (connection : Connection rtc) : ConnectionInput → Option (Description × List crates.Candidate)
  | .signal signal _ =>
    if connection.concerns signal && signal.signalType = .answer then (Description.parse crates signal.data).toOption
    else none
  | _ => none

theorem handle_answer {connection : Connection rtc} {signal : Signal} {description : Description}
    {candidates : List crates.Candidate} (ours : connection.concerns signal = true)
    (answer : signal.signalType = .answer)
    (parsed : Description.parse crates signal.data = .ok (description, candidates)) (now : Instant) :
    connection.handle (.signal signal now) = { connection with remoteIdentity := description.identity }.onSession
      (Session.setRemoteDescription description candidates now) := by
  simp only [handle, handleSignal, ours, Bool.not_true, Bool.false_eq_true, if_false, answer, parsed]
  rfl

theorem handle_answered {candidates : List crates.Candidate}
    (answer : connection.answered input = some (description, candidates)) :
    ∃ now, connection.handle input = { connection with remoteIdentity := description.identity }.onSession
      (Session.setRemoteDescription description candidates now) := by
  cases input with
  | signal signal now =>
    simp only [answered] at answer
    split at answer
    · rename_i ours
      rw [Bool.and_eq_true, decide_eq_true_eq] at ours
      have parsed : Description.parse crates signal.data = .ok (description, candidates) := by
        cases outcome : Description.parse crates signal.data with
        | error e =>
          rw [outcome] at answer
          cases answer
        | ok result =>
          rw [outcome] at answer
          cases answer
          rfl
      exact ⟨now, handle_answer ours.1 ours.2 parsed now⟩
    · cases answer
  | packet data source now => cases answer
  | timeout now => cases answer
  | send channel data now => cases answer

/-- Every other input leaves the identity alone. -/
theorem handle_unanswered (pinning : Pinning rtc) (none : connection.answered input = none) :
    (connection.handle input).1.remoteIdentity = connection.remoteIdentity ∧
      Session.Pins pinning connection.session (connection.handle input).1.session := by
  cases input with
  | packet data source now => exact ⟨rfl, Session.pins_handle pinning _ (by simp)⟩
  | timeout now => exact ⟨rfl, Session.pins_handle pinning _ (by simp)⟩
  | send channel data now => exact ⟨rfl, Session.pins_handle pinning _ (by simp)⟩
  | signal signal now =>
    have same : Session.Pins pinning connection.session connection.session := refl_of (Session.Pins pinning) _
    simp only [answered] at none
    simp only [handle, handleSignal]
    split
    · exact ⟨rfl, same⟩
    · rename_i ours
      rw [Bool.not_eq_true', Bool.not_eq_false] at ours
      split
      · rename_i answer
        rw [ours, answer] at none
        split
        · exact ⟨rfl, same⟩
        · rename_i parsed
          rw [parsed] at none
          cases none
      · split
        · exact ⟨rfl, same⟩
        · exact ⟨rfl, Session.pins_handle pinning _ (by simp)⟩
      · exact ⟨rfl, same⟩
      · exact ⟨rfl, same⟩

-- the description whose fingerprint waits for DTLS from this input on
def describes (connection : Connection rtc) (input : ConnectionInput) : Option Description :=
  (connection.answered input).bind fun answer =>
    if connection.session.dtls.isNone && Session.takesDescription connection.session.ice answer.1 answer.2 then
      some answer.1
    else none

end Connection

/-! ## Runs -/

/-- A connection with the description whose fingerprint waits for DTLS or was handed to it. -/
structure WatchedConnection {crates : WebrtcCrates} (rtc : Rtc crates.Candidate) where
  connection : Connection rtc
  described : Option Description

variable {text : String}

namespace WatchedConnection

def step (watched : WatchedConnection rtc) (input : ConnectionInput) :
    WatchedConnection rtc × Except ProtocolError Unit :=
  (⟨(watched.connection.handle input).1, (watched.connection.describes input).or watched.described⟩,
    (watched.connection.handle input).2)

/-- A connection that was just made, on a session that was just made. -/
inductive Opened : WatchedConnection rtc → Prop
  | connected (writer : DescriptionWriter crates rtc) (localAddr : SocketAddr) (isControlling : Bool) (ice : rtc.Agent)
      (certificate : rtc.Certificate) (within : Duration) (description : Description) (connectionId : UInt64)
      (remoteNetworkId : String) (iceMode : IceMode) :
      Opened ⟨(Connection.connect writer ((Session.new localAddr isControlling ice certificate).setEstablishDeadline within)
        description connectionId remoteNetworkId iceMode).1, none⟩
  | accepted (writer : DescriptionWriter crates rtc) (localAddr : SocketAddr) (isControlling : Bool) (ice : rtc.Agent)
      (certificate : rtc.Certificate) (within : Duration) (description : Description) (offer : Signal)
      (remote : Description) (candidates : List crates.Candidate) (iceMode : IceMode) (now : Instant)
      {connection : Connection rtc} {signals : List Signal}
      (accepted : Connection.accept writer ((Session.new localAddr isControlling ice certificate).setEstablishDeadline within)
        description offer remote candidates iceMode now = .ok (connection, signals)) :
      Opened ⟨connection, some remote⟩

/-- Once there is a DTLS transport, the identity is that of the description it was made for. -/
def Faithful (watched : WatchedConnection rtc) : Prop :=
  watched.connection.session.dtls.isSome = true →
    ∃ description, watched.described = some description ∧ watched.connection.remoteIdentity = description.identity

/-- The input leads to a faithful identity, and leaves the identity alone if it is refused. -/
structure Reports (watched : WatchedConnection rtc) (input : ConnectionInput) : Prop where
  faithful : (watched.step input).1.Faithful
  unmoved : ∀ error, (watched.step input).2 = .error error →
    (watched.step input).1.connection.remoteIdentity = watched.connection.remoteIdentity

/-- An answer that is refused, or that comes when DTLS is there, repeats the identity. -/
def Repeats (watched : WatchedConnection rtc) (input : ConnectionInput) : Prop :=
  ∀ answer, watched.connection.answered input = some answer →
    (watched.connection.session.dtls.isSome = true ∨ ∃ error, (watched.step input).2 = .error error) →
    answer.1.identity = watched.connection.remoteIdentity

section
variable (pinning : Pinning rtc)

-- the fingerprint of the session is that of the description
def Tied (watched : WatchedConnection rtc) : Prop :=
  ∀ fingerprint, watched.connection.session.fingerprint pinning = some fingerprint →
    ∃ description, watched.described = some description ∧ description.fingerprint = fingerprint

theorem Tied.pins {watched : WatchedConnection rtc} (tied : Tied pinning watched)
    (pins : Session.Pins pinning watched.connection.session connection.session) :
    Tied pinning ⟨connection, watched.described⟩ := by
  intro fingerprint there
  rcases pins.same with same | gone
  · exact tied fingerprint (same.symm.trans there)
  · rw [there] at gone
    cases gone

variable (watched : WatchedConnection rtc) (input : ConnectionInput)

/-- What an input does to the identity and to the description. -/
theorem step_cases :
    (watched.connection.answered input = none ∧ (watched.step input).1.described = watched.described ∧
      (watched.step input).1.connection.remoteIdentity = watched.connection.remoteIdentity ∧
      Session.Pins pinning watched.connection.session (watched.step input).1.connection.session) ∨
    ∃ answer, watched.connection.answered input = some answer ∧
      (watched.step input).1.connection.remoteIdentity = answer.1.identity ∧
      ((watched.connection.session.dtls = none ∧ (watched.step input).1.described = some answer.1 ∧
          ((watched.step input).1.connection.session.fingerprint pinning = some answer.1.fingerprint ∨
            (watched.step input).1.connection.session.fingerprint pinning = none)) ∨
        ((watched.connection.session.dtls.isSome = true ∨ ∃ error, (watched.step input).2 = .error error) ∧
          (watched.step input).1.described = watched.described ∧
          Session.Pins pinning watched.connection.session (watched.step input).1.connection.session)) := by
  cases answer : watched.connection.answered input with
  | none =>
    refine .inl ⟨rfl, ?_, Connection.handle_unanswered pinning answer⟩
    simp only [step, Connection.describes, answer]
    rfl
  | some found =>
    obtain ⟨now, handled⟩ := Connection.handle_answered answer
    refine .inr ⟨found, rfl, ?_, ?_⟩
    · simp only [step, handled]
      rfl
    · have session : (watched.step input).1.connection.session =
          (Session.setRemoteDescription found.1 found.2 now watched.connection.session).1 := by
        simp only [step, handled]
        rfl
      have result : (watched.step input).2 =
          (Session.setRemoteDescription found.1 found.2 now watched.connection.session).2 := by
        simp only [step, handled]
        rfl
      have described : (watched.step input).1.described =
          (if watched.connection.session.dtls.isNone &&
              Session.takesDescription watched.connection.session.ice found.1 found.2 then some found.1
            else none).or watched.described := by
        simp only [step, Connection.describes, answer, Option.bind_some]
      rw [session, result, described]
      rcases Session.fingerprint_setRemoteDescription pinning watched.connection.session found.1 found.2 now with
        ⟨taken, absent, waits⟩ | ⟨kept, pins⟩
      · rw [taken, absent]
        exact .inl ⟨rfl, rfl, waits⟩
      · refine .inr ⟨?_, ?_, pins⟩
        · rcases kept with there | refused
          · exact .inl there
          · exact .inr (Session.refused_setRemoteDescription refused now)
        · rcases kept with there | refused
          · rw [Option.isNone_eq_false_iff.mpr there]
            rfl
          · rw [refused, Bool.and_false]
            rfl

theorem tied_step (tied : Tied pinning watched) : Tied pinning (watched.step input).1 := by
  rcases step_cases pinning watched input with ⟨-, described, -, pins⟩ | ⟨answer, -, -, changed | ⟨-, described, pins⟩⟩
  · have kept := tied.pins pinning pins
    rwa [← described] at kept
  · obtain ⟨-, described, waits⟩ := changed
    intro fingerprint there
    rw [there] at waits
    rcases waits with same | gone
    · exact ⟨answer.1, described, (Option.some.inj same).symm⟩
    · cases gone
  · have kept := tied.pins pinning pins
    rwa [← described] at kept

/-- The description is the one the transport was made for, and its identity is reported. -/
structure Sound (watched : WatchedConnection rtc) : Prop where
  tied : Tied pinning watched
  identity : ∀ description, watched.described = some description →
    watched.connection.remoteIdentity = description.identity

theorem Sound.faithful {watched : WatchedConnection rtc} (sound : Sound pinning watched) : watched.Faithful := by
  intro there
  obtain ⟨fingerprint, waits⟩ := Session.fingerprint_of_isSome pinning there
  obtain ⟨description, described, -⟩ := sound.tied fingerprint waits
  exact ⟨description, described, sound.identity description described⟩

theorem sound_step (sound : Sound pinning watched) (repeats : watched.Repeats input) :
    Sound pinning (watched.step input).1 := by
  refine ⟨tied_step pinning watched input sound.tied, ?_⟩
  intro description
  rcases step_cases pinning watched input with ⟨-, described, identity, -⟩ | ⟨answer, answered, identity, changed | kept⟩
  · rw [described, identity]
    exact sound.identity description
  · rw [changed.2.1, identity]
    rintro ⟨⟩
    rfl
  · obtain ⟨stale, described, -⟩ := kept
    rw [described, identity, repeats answer answered stale]
    exact sound.identity description

theorem reports_iff (sound : Sound pinning watched) : watched.Reports input ↔ watched.Repeats input := by
  constructor
  · rintro ⟨faithful, unmoved⟩ answer answered stale
    rcases step_cases pinning watched input with ⟨none, -⟩ | ⟨found, same, identity, changed⟩
    · rw [none] at answered
      cases answered
    · rw [answered] at same
      cases same
      rcases stale with there | ⟨error, refused⟩
      · -- the description is the old one, and its identity was reported before
        rcases changed with ⟨absent, -⟩ | ⟨-, described, pins⟩
        · rw [absent] at there
          cases there
        · obtain ⟨description, still, reported⟩ := faithful (pins.stays there)
          rw [described] at still
          exact identity.symm.trans (reported.trans (sound.identity description still).symm)
      · exact identity.symm.trans (unmoved error refused)
  · intro repeats
    refine ⟨(sound_step pinning watched input sound repeats).faithful, ?_⟩
    intro error refused
    rcases step_cases pinning watched input with ⟨-, -, identity, -⟩ | ⟨answer, answered, identity, -⟩
    · exact identity
    · exact identity.trans (repeats answer answered (.inr ⟨error, refused⟩))

theorem Opened.sound {watched : WatchedConnection rtc} (opened : Opened watched) : Sound pinning watched := by
  cases opened with
  | connected =>
    refine ⟨fun fingerprint there => ?_, fun description there => ?_⟩
    · cases there
    · cases there
  | accepted writer localAddr isControlling ice certificate within description offer remote candidates iceMode now accepted =>
    unfold Connection.accept at accepted
    split at accepted
    · cases accepted
    · split at accepted
      · cases accepted
      · rename_i session outcome
        cases accepted
        refine ⟨?_, ?_⟩
        · intro fingerprint there
          refine ⟨remote, rfl, ?_⟩
          let fresh := (Session.new localAddr isControlling ice certificate).setEstablishDeadline within
          have handled : Session.setRemoteDescription remote candidates now fresh = (session, .ok ()) := outcome
          rcases Session.fingerprint_setRemoteDescription pinning fresh remote candidates now with
            ⟨-, -, waits⟩ | ⟨idle | refused, -⟩
          · rw [handled, there] at waits
            rcases waits with same | gone
            · exact (Option.some.inj same).symm
            · cases gone
          · cases idle
          · obtain ⟨error, failed⟩ := Session.refused_setRemoteDescription refused now
            rw [handled] at failed
            cases failed
        · rintro description ⟨⟩
          rfl

/-- The description is that of the pinned fingerprint in every run. The reported identity is always
its identity, and unmoved by what is refused, exactly if late and refused answers repeat it. -/
theorem remote_identity_pinned_iff {start : WatchedConnection rtc} (opened : Opened start)
    (inputs : List ConnectionInput) :
    (∀ dtls, (run step start inputs).1.connection.session.dtls = some dtls →
      ∃ description, (run step start inputs).1.described = some description ∧
        pinning.pinned dtls = description.fingerprint) ∧
    ((start.Faithful ∧ Along step Reports start inputs) ↔ Along step Repeats start inputs) := by
  have sound := opened.sound pinning
  constructor
  · intro dtls there
    have tied : Tied pinning (run step start inputs).1 :=
      run_invariant step (tied_step pinning) sound.tied inputs
    obtain ⟨description, described, same⟩ := tied _ (Session.fingerprint_of_dtls pinning there)
    exact ⟨description, described, same.symm⟩
  · rw [and_iff_right sound.faithful]
    exact along_congr step (reports_iff pinning) (sound_step pinning) sound inputs

end

/-! ## Answers that come too late or are refused -/

/-- Stacks on a path that is up from the start. Credentials must not be empty, and DTLS keeps the fingerprint. -/
def pinningRtc : Rtc Sample.webrtc.Candidate := { Session.quietRtc with
  setRemoteCredentials := fun _ ufrag _ => ((), if ufrag = "" then .error "remote ufrag is empty" else .ok ())
  Dtls := String × String
  dtlsNew := fun _ _ _ _ fingerprint _ => .ok fingerprint
  dtlsRead := fun dtls data _ => (dtls, .ok [data])
  dtlsWrite := fun dtls _ _ => (dtls, .ok ())
  dtlsTransmits := fun dtls => (dtls, [])
  dtlsTimeout := fun dtls _ => dtls
  dtlsPollTimeout := fun _ => none }

def pinning : Pinning pinningRtc where
  pinned := id
  made made := (Except.ok.inj made).symm
  read _ _ _ := rfl
  written _ _ _ := rfl
  transmitted _ := rfl
  timedOut _ _ := rfl

def writer : DescriptionWriter Sample.webrtc pinningRtc := ⟨fun _ => "", fun _ _ => "", fun _ => "", fun _ => []⟩

def dialing : Session pinningRtc :=
  (Session.new (.v4 0x7f000001 8) true () ()).setEstablishDeadline defaultEstablishDeadline

def dialed : WatchedConnection pinningRtc := ⟨⟨dialing, 1, "7", none⟩, none⟩

theorem opened_dialed : Opened dialed :=
  .connected writer _ true () () _ ⟨⟨"v", "q"⟩, .server, ("sha-256", "CC"), 65536, none⟩ 1 "7" .full

def answerOf (text : String) : ConnectionInput := .signal ⟨.answer, 1, text, "7"⟩ 0

def describedBy (identity ufrag digest : String) : Description :=
  ⟨⟨ufrag, "p"⟩, .client, ("sha-256", digest), 65536, some identity⟩

def firstText : String :=
  "a=identity:one\nm=application 9 UDP/DTLS/SCTP webrtc-datachannel\na=ice-ufrag:u\na=ice-pwd:p\na=fingerprint:sha-256 AA\na=setup:active\n"
def secondText : String :=
  "a=identity:two\nm=application 9 UDP/DTLS/SCTP webrtc-datachannel\na=ice-ufrag:w\na=ice-pwd:p\na=fingerprint:sha-256 BB\na=setup:active\n"
-- the second without its user fragment
def refusedText : String :=
  "a=identity:two\nm=application 9 UDP/DTLS/SCTP webrtc-datachannel\na=ice-ufrag:\na=ice-pwd:p\na=fingerprint:sha-256 BB\na=setup:active\n"

theorem parse_attributes {identity ufrag digest : String}
    (read : Sample.webrtc.unmarshal text = .ok ⟨[⟨"identity", some identity⟩], [⟨[⟨"ice-ufrag", some ufrag⟩,
      ⟨"ice-pwd", some "p"⟩, ⟨"fingerprint", some ("sha-256 " ++ digest)⟩, ⟨"setup", some "active"⟩]⟩]⟩) :
    Description.parse Sample.webrtc text = .ok (describedBy identity ufrag digest, []) := by
  unfold Description.parse
  rw [read]
  simp [Description.parseMedia, Description.parseMaxMessageSize, Description.parseCandidates, Description.parseSetup,
    mediaAttribute, findAttribute, Sample.parseFingerprint_sha256, bind, Except.bind, pure, Except.pure,
    Except.mapError, sctpMaxMessageSize, describedBy]

theorem parse_first : Description.parse Sample.webrtc firstText = .ok (describedBy "one" "u" "AA", []) := by
  apply parse_attributes
  unfold Sample.webrtc
  dsimp only
  rw [firstText, String.toList_ofList]
  decide +kernel

theorem parse_second : Description.parse Sample.webrtc secondText = .ok (describedBy "two" "w" "BB", []) := by
  apply parse_attributes
  unfold Sample.webrtc
  dsimp only
  rw [secondText, String.toList_ofList]
  decide +kernel

theorem parse_refused : Description.parse Sample.webrtc refusedText = .ok (describedBy "two" "" "BB", []) := by
  apply parse_attributes
  unfold Sample.webrtc
  dsimp only
  rw [refusedText, String.toList_ofList]
  decide +kernel

theorem answered_answerOf (parsed : Description.parse Sample.webrtc text = .ok (description, []))
    (session : Session pinningRtc) (identity : Option String) :
    (Connection.mk session 1 "7" identity).answered (answerOf text) = some (description, []) := by
  show (Description.parse Sample.webrtc text).toOption = _
  rw [parsed]
  rfl

/-- What an answer does to a connection with the sample's ids. -/
theorem step_answerOf (parsed : Description.parse Sample.webrtc text = .ok (description, []))
    (session : Session pinningRtc) (identity : Option String) (described : Option Description) :
    (WatchedConnection.mk ⟨session, 1, "7", identity⟩ described).step (answerOf text) =
      (⟨⟨(Session.setRemoteDescription description [] 0 session).1, 1, "7", description.identity⟩,
        (if session.dtls.isNone && Session.takesDescription session.ice description [] then some description
          else none).or described⟩, (Session.setRemoteDescription description [] 0 session).2) := by
  have answered := answered_answerOf parsed session identity
  have handled := @Connection.handle_answer _ _ ⟨session, 1, "7", identity⟩ ⟨.answer, 1, text, "7"⟩ _ _ rfl rfl parsed 0
  simp only [step, Connection.describes, answered, Option.bind_some]
  rw [answerOf, handled]
  rfl

def afterFirst : Session pinningRtc := (Session.setRemoteDescription (describedBy "one" "u" "AA") [] 0 dialing).1

theorem step_first : dialed.step (answerOf firstText) =
    (⟨⟨afterFirst, 1, "7", some "one"⟩, some (describedBy "one" "u" "AA")⟩, .ok ()) := by
  rw [dialed, step_answerOf parse_first]
  rfl

-- an answer behind the first one finds DTLS in place
theorem run_behind_first (parsed : Description.parse Sample.webrtc text = .ok (description, [])) :
    run step dialed [answerOf firstText, answerOf text] =
      (⟨⟨(Session.setRemoteDescription description [] 0 afterFirst).1, 1, "7", description.identity⟩,
        some (describedBy "one" "u" "AA")⟩, [.ok (), (Session.setRemoteDescription description [] 0 afterFirst).2]) := by
  have later := step_answerOf parsed afterFirst (some "one") (some (describedBy "one" "u" "AA"))
  rw [run_cons, step_first, run_cons, later]
  rfl

/-- A repeated answer is reported as it was pinned. -/
theorem repeated_answer_pinned :
    (run step dialed [answerOf firstText, answerOf firstText]).1.connection.session.dtls = some ("sha-256", "AA") ∧
    Along step Reports dialed [answerOf firstText, answerOf firstText] := by
  have repeats : Along step Repeats dialed [answerOf firstText, answerOf firstText] := by
    refine ⟨?_, ?_, trivial⟩
    · rintro answer - (there | ⟨error, refused⟩)
      · cases there
      · rw [step_first] at refused
        cases refused
    · rw [step_first]
      rintro answer answered -
      cases (answered_answerOf parse_first afterFirst (some "one")).symm.trans answered
      rfl
  refine ⟨?_, ((remote_identity_pinned_iff pinning opened_dialed _).2.mpr repeats).2⟩
  rw [run_behind_first parse_first]
  rfl

/-- An answer behind the start of DTLS, and one that ICE refuses, both replace the identity. -/
theorem unpinned_identity_reported :
    (∃ late, run step dialed [answerOf firstText, answerOf secondText] = (late, [.ok (), .ok ()]) ∧
      late.connection.session.dtls = some ("sha-256", "AA") ∧ late.described = some (describedBy "one" "u" "AA") ∧
      late.connection.remoteIdentity = some "two") ∧
    ∃ refused, dialed.step (answerOf refusedText) = (refused, .error (.other "remote ufrag is empty")) ∧
      dialed.connection.remoteIdentity = none ∧ refused.connection.remoteIdentity = some "two" := by
  constructor
  · rw [run_behind_first parse_second]
    exact ⟨_, rfl, rfl, rfl, rfl⟩
  · rw [dialed, step_answerOf parse_refused]
    exact ⟨_, rfl, rfl, rfl⟩

end WatchedConnection

end Nethernet
