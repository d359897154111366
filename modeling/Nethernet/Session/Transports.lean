import Mathlib.Logic.Relation
import Nethernet.Session.Establish

/-! What a call does to DTLS and to what waits for it. Apart from the start of the transports and the
datagrams it is given, DTLS only writes, transmits and lets time pass. -/

set_option autoImplicit false

namespace Nethernet
open Foundation

namespace Session
variable {Candidate : Type} {rtc : Rtc Candidate}

inductive Works : rtc.Dtls → rtc.Dtls → Prop
  | write (dtls : rtc.Dtls) (packet : Bytes) (now : Instant) : Works dtls (rtc.dtlsWrite dtls packet now).1
  | transmit (dtls : rtc.Dtls) : Works dtls (rtc.dtlsTransmits dtls).1
  | timeout (dtls : rtc.Dtls) (now : Instant) : Works dtls (rtc.dtlsTimeout dtls now)

/-- No transport is started, nothing is read, and what waits is left waiting. -/
structure Keeps (before after : Session rtc) : Prop where
  early : after.earlyPackets = before.earlyPackets
  pending : after.pendingRoleFingerprint = before.pendingRoleFingerprint
  dtls : Option.Rel (Relation.ReflTransGen Works) before.dtls after.dtls

instance : IsPreorder (Session rtc) Keeps where
  refl session := by
    refine ⟨rfl, rfl, ?_⟩
    cases session.dtls with
    | none => exact .none
    | some dtls => exact .some .refl
  trans first middle last left right := by
    refine ⟨right.early.trans left.early, right.pending.trans left.pending, ?_⟩
    have begun := left.dtls
    have ended := right.dtls
    revert begun ended
    generalize first.dtls = old, middle.dtls = there, last.dtls = new
    rintro (begun | -) (ended | -)
    · exact .some (begun.trans ended)
    · exact .none

variable {before after : Session rtc}

theorem Keeps.of_same (early : after.earlyPackets = before.earlyPackets)
    (pending : after.pendingRoleFingerprint = before.pendingRoleFingerprint) (dtls : after.dtls = before.dtls) :
    Keeps before after := by
  refine ⟨early, pending, ?_⟩
  rw [dtls]
  exact (refl_of Keeps before).dtls

theorem Keeps.of_works {old new : rtc.Dtls} (early : after.earlyPackets = before.earlyPackets)
    (pending : after.pendingRoleFingerprint = before.pendingRoleFingerprint) (was : before.dtls = some old)
    (is : after.dtls = some new) (works : Works old new) : Keeps before after := by
  refine ⟨early, pending, ?_⟩
  rw [was, is]
  exact .some (.single works)

/-- What DTLS does on its own keeps everything that a write, a transmission and a timeout keep. -/
theorem Keeps.observe (keeps : Keeps before after) {A : Type} {observe : rtc.Dtls → A}
    (works : ∀ old new, Works old new → observe new = observe old) :
    after.dtls.map observe = before.dtls.map observe := by
  have related := keeps.dtls
  revert related
  generalize before.dtls = old, after.dtls = new
  rintro (steps | -)
  · rename_i old new
    refine congrArg some ?_
    induction steps with
    | refl => rfl
    | tail _ last ih => exact (works _ _ last).trans ih
  · rfl

/-! ## The parts of a call -/

theorem keeps_onIce (operation : rtc.Agent → rtc.Agent × Except String Unit) :
    Fallible.Obeys Keeps (onIce rtc operation) :=
  fun _ => .of_same rfl rfl rfl

theorem keeps_onStreams {A : Type} (absent : A) (program : StreamM rtc A) :
    Fallible.Obeys Keeps (onStreams absent program) := by
  intro session
  unfold onStreams
  split
  · exact .of_same rfl rfl rfl
  · exact refl_of Keeps session

variable (session : Session rtc)

theorem keeps_fail : Keeps session session.fail := by
  unfold fail
  split
  · exact refl_of Keeps session
  · exact .of_same rfl rfl rfl

theorem keeps_pollIce : Keeps session session.pollIce := by
  have polled : Keeps session session.polled := .of_same rfl rfl rfl
  rw [pollIce_eq]
  split
  · exact trans_of Keeps polled (keeps_fail _)
  · exact polled

variable (now : Instant)

theorem keeps_writePacket (packet : Bytes) : Fallible.Obeys Keeps (writePacket now packet : SessionM rtc Unit) := by
  intro session
  unfold writePacket
  dsimp only
  split
  · exact .of_same rfl rfl rfl
  · rename_i dtls there
    exact .of_works rfl rfl there rfl (.write dtls packet now)

theorem keeps_transmit : Fallible.Obeys Keeps (transmit now : SessionM rtc Unit) := by
  refine Fallible.Obeys.bind (.modify fun _ => .of_same rfl rfl rfl) fun _ => ?_
  refine Fallible.Obeys.bind .get fun session => ?_
  split
  · exact .pure ()
  · exact Fallible.Obeys.each fun packet _ => keeps_writePacket now packet

theorem keeps_flushDtls : Keeps session session.flushDtls := by
  unfold flushDtls
  split
  · exact refl_of Keeps session
  · rename_i dtls there
    exact .of_works rfl rfl there rfl (.transmit dtls)

theorem keeps_pumpSctp : Fallible.Obeys Keeps (pumpSctp now : SessionM rtc Bool) := by
  refine Fallible.Obeys.bind .get fun session => ?_
  split
  · refine (keeps_onStreams false _).bind fun failed => ?_
    refine (keeps_onStreams () _).bind fun _ => ?_
    refine (keeps_transmit now).bind fun _ => ?_
    exact Fallible.Obeys.bind (.modify keeps_flushDtls) fun _ => .pure failed
  · exact .pure false

theorem keeps_conclude (failed : Bool) : Keeps session (session.conclude now failed) := by
  refine relates_conclude keeps_fail (fun session => ?_) session now failed
  unfold announceReady
  split
  · exact .of_same rfl rfl rfl
  · exact refl_of Keeps session

theorem keeps_dtlsTimeout (now : Instant) (session : Session rtc) :
    Keeps session { session with dtls := session.dtls.map (rtc.dtlsTimeout · now) } := by
  cases there : session.dtls with
  | none => exact .of_same rfl rfl there.symm
  | some dtls => exact .of_works rfl rfl there rfl (.timeout dtls now)

theorem keeps_pushWait (session : Session rtc) : Keeps session (session.pushWait now) := by
  obtain ⟨ice, left | ⟨duration, left⟩⟩ := pushWait_cases session now
  · rw [left]
    exact .of_same rfl rfl rfl
  · rw [left]
    exact .of_same rfl rfl rfl

section
variable {relation : Session rtc → Session rtc → Prop} [IsPreorder (Session rtc) relation]

-- behind the start a pump does nothing to the transport
theorem keeps_pumpRest (now : Instant) :
    Fallible.Obeys Keeps (pumpSctp now >>= fun failed => .modify (conclude now failed) : SessionM rtc Unit) :=
  (keeps_pumpSctp now).bind fun failed => .modify fun session => keeps_conclude session now failed

/-- A pump does nothing else to the transport than to start it. -/
theorem obeys_pump (keeps : ∀ before after, Keeps before after → relation before after) (now : Instant)
    (starts : Fallible.Obeys relation (startTransportsOnSelectedPair now : SessionM rtc Unit)) :
    Fallible.Obeys relation (pump now : SessionM rtc Unit) := by
  refine Fallible.Obeys.bind (.modify fun session => keeps _ _ (keeps_pollIce session)) fun _ => ?_
  exact starts.bind fun _ => (keeps_pumpRest now).weaken keeps

theorem parts_of_keeps {input : SessionInput Candidate} (keeps : ∀ before after, Keeps before after → relation before after)
    (reads : ∀ data source now, input = .packet data source now → rtc.isStunMessage data = false →
      Fallible.Obeys relation (readDtls data now : SessionM rtc Unit) ∧
        Fallible.Obeys relation (.modify (bufferEarly data) : SessionM rtc Unit)) :
    Parts input id fun _ => Fallible.Obeys relation where
  toCompositional := Fallible.compositional_obeys
  unseen _ := ⟨rfl, rfl, rfl⟩
  ice operation := (keeps_onIce operation).weaken keeps
  streams _ _ _ _ := (keeps_onStreams () _).weaken keeps
  reads := reads
  size _ _ := keeps _ _ (.of_same rfl rfl rfl)
  dtlsTimeout now session := keeps _ _ (keeps_dtlsTimeout now session)
  sctpTimeout _ _ := keeps _ _ (.of_same rfl rfl rfl)

end

/-! ## The start -/

theorem startTransports_cases (remoteAddr : SocketAddr) (role : ResolvedRole) (fingerprint : String × String)
    (now : Instant) :
    (∃ certificate error, startTransports remoteAddr role fingerprint now session =
      ({ session with certificate := certificate }, .error error)) ∨
    ∃ certificate dtls sctp, session.certificate = some certificate ∧
      rtc.dtlsNew session.localAddr remoteAddr role certificate fingerprint now = .ok dtls ∧
      startTransports remoteAddr role fingerprint now session =
        ({ session with certificate := none, remote := some ⟨remoteAddr⟩, dtls := some dtls, sctp := some sctp }, .ok ()) := by
  unfold startTransports
  cases held : session.certificate with
  | none =>
    have refused : takeCertificate session = (session, .error (.other "transports already started")) := by
      rw [takeCertificate, held]
    rw [Fallible.bind_of_error refused]
    exact .inl ⟨session.certificate, _, rfl⟩
  | some certificate =>
    have took : takeCertificate session = ({ session with certificate := none }, .ok certificate) := by
      rw [takeCertificate, held]
    rw [Fallible.bind_of_ok took, Fallible.bind_get]
    cases made : rtc.dtlsNew session.localAddr remoteAddr role certificate fingerprint now with
    | error error => exact .inl ⟨none, error, rfl⟩
    | ok dtls =>
      cases associated : SctpLayer.new rtc session.localAddr remoteAddr role session.remoteMaxMessageSize now with
      | error error => exact .inl ⟨none, error, rfl⟩
      | ok sctp => exact .inr ⟨certificate, dtls, sctp, rfl, made, rfl⟩

/-- The transports are left as they are, cannot be made, or are made and given the early packets. -/
theorem startTransportsOnSelectedPair_cases :
    startTransportsOnSelectedPair now session = (session, .ok ()) ∨
    (session.dtls = none ∧ ∃ role fingerprint, session.pendingRoleFingerprint = some (role, fingerprint) ∧
      ((∃ certificate error, startTransportsOnSelectedPair now session =
        ({ session with pendingRoleFingerprint := none, certificate := certificate }, .error error)) ∨
      ∃ remoteAddr certificate dtls begun,
        rtc.selectedRemote session.ice = some remoteAddr ∧ session.certificate = some certificate ∧
        rtc.dtlsNew session.localAddr remoteAddr role certificate fingerprint now = .ok dtls ∧ begun.dtls = some dtls ∧
        startTransportsOnSelectedPair now session = Fallible.each session.earlyPackets (readDtls · now) begun)) := by
  generalize outcome : startTransportsOnSelectedPair now session = result
  unfold startTransportsOnSelectedPair at outcome
  rw [Fallible.bind_get] at outcome
  rcases Option.eq_none_or_eq_some session.dtls with absent | ⟨dtls, there⟩
  · rcases Option.eq_none_or_eq_some (rtc.selectedRemote session.ice) with unselected | ⟨remoteAddr, selected⟩
    · simp only [absent, unselected] at outcome
      exact .inl outcome.symm
    · rcases Option.eq_none_or_eq_some session.pendingRoleFingerprint with unknown | ⟨⟨role, fingerprint⟩, waits⟩
      · simp only [absent, selected, unknown] at outcome
        exact .inl outcome.symm
      · simp only [absent, selected, waits] at outcome
        rw [Fallible.bind_modify] at outcome
        refine .inr ⟨absent, role, fingerprint, waits, ?_⟩
        rcases startTransports_cases { session with pendingRoleFingerprint := none } remoteAddr role fingerprint now with
          ⟨certificate, error, failed⟩ | ⟨certificate, dtls, sctp, held, made, started⟩
        · rw [Fallible.bind_of_error failed] at outcome
          exact .inl ⟨certificate, error, outcome.symm⟩
        · rw [Fallible.bind_of_ok started] at outcome
          exact .inr ⟨remoteAddr, certificate, dtls, _, selected, held, made, rfl, outcome.symm⟩
  · simp only [there] at outcome
    exact .inl outcome.symm

end Session

end Nethernet
