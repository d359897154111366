import Nethernet.Session.Announcements

/-! Losses that the SCTP layer reports to a pump.

The loss is remembered in a local flag until the layers have been pumped; an error on the way drops it. -/

set_option autoImplicit false

namespace Nethernet
open Foundation

variable {Candidate : Type} {rtc : Rtc Candidate}

namespace Session

/-- The events that a pump takes from the SCTP layer: those queued before that are not left over. -/
def takenEvents (now : Instant) (session : Session rtc) : List SctpEvent :=
  match startLayers now session with
  | (begun, .ok ()) =>
    begun.queuedEvents.take (begun.queuedEvents.length - (pump now session).1.queuedEvents.length)
  | (_, .error _) => []

theorem sctp_conclude (session : Session rtc) (now : Instant) (failed : Bool) :
    (session.conclude now failed).sctp = session.sctp := by
  refine view_conclude (·.sctp) (fun session => ?_) (fun session => ?_) session now failed
  · unfold fail
    split <;> rfl
  · unfold announceReady
    split <;> rfl

theorem failedEmitted_conclude (session : Session rtc) (now : Instant) :
    (session.conclude now true).channels.failedEmitted = true := by
  have announced := (advances_announceReady session.fail).emitted_mono .failed (failedEmitted_fail session)
  unfold conclude
  rcases checkDeadline_cases session.fail.announceReady now with same | expired
  · exact (congrArg (fun session => session.channels.failedEmitted) same).trans announced
  · exact (congrArg (fun session => session.channels.failedEmitted) expired).trans (failedEmitted_fail _)

/-- A failure was queued before, or is queued among the new outputs. -/
def FailureQueued (before after : Session rtc) : Prop :=
  before.channels.failedEmitted = true ∨ .event .failed ∈ after.output.drop before.output.length

theorem failureQueued_iff {before after : Session rtc} (advances : Advances before after) :
    before.FailureQueued after ↔ after.channels.failedEmitted = true := by
  obtain ⟨new, grown⟩ := advances.output
  have emitted := advances.emitted .failed
  have kept := advances.emitted_mono .failed
  unfold FailureQueued
  rw [← grown, List.count_append] at emitted
  rw [← grown, List.drop_left, ← List.count_pos_iff]
  simp only [Channels.emitted] at emitted kept
  cases was : before.channels.failedEmitted with
  | true => simp [kept was]
  | false =>
    rw [was, Bool.toNat_false] at emitted
    cases is : after.channels.failedEmitted with
    | true =>
      rw [is, Bool.toNat_true] at emitted
      simp only [Bool.false_eq_true, false_or, iff_true]
      omega
    | false =>
      rw [is, Bool.toNat_false] at emitted
      simp only [Bool.false_eq_true, false_or, iff_false]
      omega

theorem advances_pump (now : Instant) : Fallible.Obeys Advances (pump now : SessionM rtc Unit) := by
  intro session
  have result := triple_pump now session ⟨refl_of Advances session, rfl⟩
  cases outcome : pump now session with
  | mk after value =>
    rw [outcome] at result
    cases value with
    | ok value => exact result.advances
    | error e => exact result.1

-- an error of a pump comes from the layers, which announce nothing after ICE was polled
theorem failedEmitted_of_error {session after : Session rtc} {now : Instant} {error : ProtocolError}
    (outcome : pump now session = (after, .error error)) :
    after.channels.failedEmitted = (session.channels.failedEmitted || session.iceLost) := by
  have polled := failedEmitted_startLayers now session
  rw [pump_eq] at outcome
  cases started : startLayers now session with
  | mk begun value =>
    rw [started] at polled
    cases value with
    | error e =>
      rw [Fallible.bind_of_error started] at outcome
      cases outcome
      exact polled
    | ok value =>
      have kept := failedEmitted_pumpSctp now begun
      rw [Fallible.bind_of_ok started] at outcome
      cases pumped : pumpSctp now begun with
      | mk next value =>
        rw [pumped] at kept
        cases value with
        | error e =>
          rw [Fallible.bind_of_error pumped] at outcome
          cases outcome
          exact kept.trans polled
        | ok failed =>
          rw [Fallible.bind_of_ok pumped] at outcome
          cases outcome

theorem failedEmitted_of_ok {session after : Session rtc} {now : Instant} (succeeded : pump now session = (after, .ok ()))
    (lost : ∃ event ∈ session.takenEvents now, event.isLoss = true) : after.channels.failedEmitted = true := by
  obtain ⟨event, member, loss⟩ := lost
  obtain ⟨begun, next, failed, started, pumped, concluded⟩ := pump_ok_iff.mp succeeded
  rw [takenEvents, started, succeeded] at member
  dsimp only at member
  have any : begun.queuedEvents.any SctpEvent.isLoss = true :=
    List.any_eq_true.mpr ⟨event, List.mem_of_mem_take member, loss⟩
  have flag := (pumpSctp_ok pumped).1
  rw [sctpLost, any, Bool.and_true] at flag
  rw [← concluded]
  cases present : begun.dtls with
  | some dtls =>
    rw [flag, present]
    exact failedEmitted_conclude next now
  | none =>
    -- without the layers no event is taken
    have untouched : pumpSctp now begun = (begun, .ok false) := by
      unfold pumpSctp
      rw [Fallible.bind_get, if_neg (by simp [present])]
      rfl
    rw [untouched] at pumped
    cases pumped
    have same : after.queuedEvents = begun.queuedEvents := by
      rw [← concluded, queuedEvents, association, sctp_conclude]
      rfl
    rw [same, Nat.sub_self] at member
    cases member

/-- A pump that takes a loss from the SCTP layer has queued the failure exactly when the layers take all that the
pump asks of them, when ICE has failed too, or when the failure was queued before. -/
theorem loss_reported_iff (session : Session rtc) (now : Instant)
    (lost : ∃ event ∈ session.takenEvents now, event.isLoss = true) :
    session.FailureQueued (pump now session).1 ↔
      (∃ begun, startLayers now session = (begun, .ok ()) ∧ begun.Unhindered now) ∨
        session.iceLost = true ∨ session.channels.failedEmitted = true := by
  rw [failureQueued_iff (advances_pump now session)]
  cases outcome : pump now session with
  | mk after value =>
    cases value with
    | error e =>
      have hindered : ¬ ∃ begun, startLayers now session = (begun, .ok ()) ∧ begun.Unhindered now := by
        rintro ⟨begun, started, unhindered⟩
        obtain ⟨failed, ran⟩ := succeeds_pumpSctp.mpr unhindered
        have pumped := pump_ok_iff.mpr ⟨begun, (pumpSctp now begun).1, failed, started, Prod.ext rfl ran, rfl⟩
        rw [outcome] at pumped
        cases pumped
      rw [failedEmitted_of_error outcome, Bool.or_eq_true, or_comm]
      exact (or_iff_right hindered).symm
    | ok value =>
      obtain ⟨begun, next, failed, started, pumped, -⟩ := pump_ok_iff.mp outcome
      have unhindered := succeeds_pumpSctp.mp ⟨failed, by rw [pumped]⟩
      exact iff_of_true (failedEmitted_of_ok outcome lost) (.inl ⟨begun, started, unhindered⟩)

/-! ### A peer that goes away -/

/-- The peer's last packet, an empty one, ends the association and closes DTLS; SCTP has an answer to send. -/
def closingRtc : Rtc Unit := { plainRtc with
  Dtls := Bool
  dtlsNew := fun _ _ _ _ _ _ => .ok false
  dtlsRead := fun closed data _ => (closed || data.isEmpty, .ok [data])
  dtlsWrite := fun closed _ _ => (closed, if closed then .error "connection is closed" else .ok ())
  dtlsTransmits := fun closed => (closed, [])
  dtlsTimeout := fun closed _ => closed
  dtlsPollTimeout := fun _ => none
  transmits := fun _ _ => ((), [[0]]) }

-- a session after its offer, as its pump finds it with the peer's last packet
def deserted (rtc : Rtc Unit) (ice : rtc.Agent) (certificate : rtc.Certificate) : Session rtc :=
  (readDtls [] 1 ((new (.v4 0x7f000001 8) false ice certificate).step offered).1).1

/-- With DTLS still open the loss is reported. -/
theorem abort_reported :
    let session : Session plainRtc := deserted plainRtc () ()
    (∃ event ∈ session.takenEvents 1, event.isLoss = true) ∧ session.FailureQueued (pump 1 session).1 := by
  intro session
  have lost : ∃ event ∈ session.takenEvents 1, event.isLoss = true :=
    ⟨.associationLost, by decide +kernel, rfl⟩
  have started : (startLayers 1 session).2 = .ok () := by decide +kernel
  have unhindered : (startLayers 1 session).1.Unhindered 1 := succeeds_pumpSctp.mp ⟨true, by decide +kernel⟩
  exact ⟨lost, (loss_reported_iff session 1 lost).mpr (.inl ⟨_, Prod.ext rfl started, unhindered⟩)⟩

/-- With DTLS closed by the same packet the pump fails, and nothing reports the loss. -/
theorem abort_unreported :
    let session : Session closingRtc := deserted closingRtc () ()
    session.takenEvents 1 = [.associationLost] ∧
      (pump 1 session).2 = .error (.other "connection is closed") ∧
      session.channels.failedEmitted = false ∧ .event .failed ∉ (pump 1 session).1.output := by
  decide +kernel

end Session

end Nethernet
