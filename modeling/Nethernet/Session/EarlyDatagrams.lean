import Nethernet.Session.Announcements
import Nethernet.Session.Transports

/-! The datagrams that come before the transports are started. They are kept for DTLS, up to a limit,
and handed to it when it is made, until it refuses one. -/

set_option autoImplicit false

namespace Nethernet
open Foundation

variable {Candidate : Type} {rtc : Rtc Candidate}

/-- A DTLS transport that tells the datagrams it was handed, and which of them it took. -/
structure DtlsLog (rtc : Rtc Candidate) where
  handed : rtc.Dtls → List (Bytes × Bool)
  made : ∀ {localAddr remoteAddr role certificate fingerprint now dtls},
    rtc.dtlsNew localAddr remoteAddr role certificate fingerprint now = .ok dtls → handed dtls = []
  read : ∀ dtls data now, handed (rtc.dtlsRead dtls data now).1 =
    handed dtls ++ [(data, (rtc.dtlsRead dtls data now).2.isOk)]
  works : ∀ old new, Session.Works old new → handed new = handed old

/-- The stacks with a DTLS transport that keeps a record of what it is handed. -/
def Rtc.recorded (rtc : Rtc Candidate) : Rtc Candidate :=
  { rtc with
    Dtls := rtc.Dtls × List (Bytes × Bool)
    dtlsNew := fun localAddr remoteAddr role certificate fingerprint now =>
      (rtc.dtlsNew localAddr remoteAddr role certificate fingerprint now).map (·, [])
    dtlsRead := fun dtls data now =>
      let (next, result) := rtc.dtlsRead dtls.1 data now
      ((next, dtls.2 ++ [(data, result.isOk)]), result)
    dtlsWrite := fun dtls packet now =>
      let (next, result) := rtc.dtlsWrite dtls.1 packet now
      ((next, dtls.2), result)
    dtlsTransmits := fun dtls =>
      let (next, packets) := rtc.dtlsTransmits dtls.1
      ((next, dtls.2), packets)
    dtlsTimeout := fun dtls now => (rtc.dtlsTimeout dtls.1 now, dtls.2)
    dtlsPollTimeout := fun dtls => rtc.dtlsPollTimeout dtls.1 }

def Rtc.record (rtc : Rtc Candidate) : DtlsLog rtc.recorded where
  handed := Prod.snd
  made := by
    intro localAddr remoteAddr role certificate fingerprint now dtls made
    cases fresh : rtc.dtlsNew localAddr remoteAddr role certificate fingerprint now with
    | error error => simp [Rtc.recorded, fresh, Except.map] at made
    | ok fresh' =>
      simp only [Rtc.recorded, fresh, Except.map] at made
      cases made
      rfl
  read _ _ _ := rfl
  works := by
    rintro old _ (⟨packet, now⟩ | _ | now) <;> rfl

/-! ## What a loop over datagrams hands over -/

/-- The datagrams that a loop hands to DTLS, up to the first that is refused. -/
def handedOver (now : Instant) : rtc.Dtls → List Bytes → List (Bytes × Bool)
  | _, [] => []
  | dtls, data :: rest =>
    match rtc.dtlsRead dtls data now with
    | (next, .ok _) => (data, true) :: handedOver now next rest
    | (_, .error _) => [(data, false)]

-- DTLS takes the datagrams one after the other
def Takes (now : Instant) : rtc.Dtls → List Bytes → Prop
  | _, [] => True
  | dtls, data :: rest => (rtc.dtlsRead dtls data now).2.isOk = true ∧ Takes now (rtc.dtlsRead dtls data now).1 rest

theorem handedOver_iff (now : Instant) (dtls : rtc.Dtls) (packets : List Bytes) :
    (handedOver now dtls packets).map Prod.fst = packets ↔ Takes now dtls packets.dropLast := by
  induction packets generalizing dtls with
  | nil => exact iff_of_true rfl trivial
  | cons data rest ih =>
    unfold handedOver
    cases read : rtc.dtlsRead dtls data now with
    | mk next result =>
      cases result with
      | error error => cases rest <;> simp [Takes, read, Except.isOk, Except.toBool]
      | ok received =>
        rw [List.map_cons, List.cons.injEq, ih]
        cases rest <;> simp [Takes, read, Except.isOk, Except.toBool]

variable {input : SessionInput Candidate} {session : Session rtc} {dtls : rtc.Dtls} {data : Bytes}

namespace Session
variable (log : DtlsLog rtc)

def handed (session : Session rtc) : List (Bytes × Bool) := (session.dtls.map log.handed).getD []

/-- The datagram that an input brings, if it is not one for ICE. -/
def datagram (rtc : Rtc Candidate) : SessionInput Candidate → Option Bytes
  | .packet data _ _ => if rtc.isStunMessage data then none else some data
  | _ => none

structure Unread (before after : Session rtc) : Prop where
  early : after.earlyPackets = before.earlyPackets
  started : after.dtls.isSome = before.dtls.isSome
  handed : after.handed log = before.handed log

/-- The DTLS transport that a pump makes of what the session has. -/
def freshDtls (now : Instant) (session : Session rtc) : Option rtc.Dtls := do
  let remoteAddr ← rtc.selectedRemote session.ice
  let (role, fingerprint) ← session.pendingRoleFingerprint
  let certificate ← session.certificate
  (rtc.dtlsNew session.localAddr remoteAddr role certificate fingerprint now).toOption

/-- The transport that a call makes when it starts one, and the time. -/
def starting (session : Session rtc) (input : SessionInput Candidate) : Option (Instant × rtc.Dtls) :=
  match beforePump input session with
  | (before, .ok (some now)) => (before.pollIce.freshDtls now).map (now, ·)
  | _ => none

variable {log}

theorem Keeps.unread {before after : Session rtc} (keeps : Keeps before after) : Unread log before after := by
  have same := keeps.observe log.works
  have present := congrArg Option.isSome same
  rw [Option.isSome_map, Option.isSome_map] at present
  exact ⟨keeps.early, present, congrArg (Option.getD · []) same⟩

instance : IsPreorder (Session rtc) (Unread log) where
  refl _ := ⟨rfl, rfl, rfl⟩
  trans _ _ _ first second :=
    ⟨second.early.trans first.early, second.started.trans first.started, second.handed.trans first.handed⟩

/-! ## Reading -/

theorem readDtls_cases (there : session.dtls = some dtls) (data : Bytes) (now : Instant) :
    (readDtls data now session).1.dtls = some (rtc.dtlsRead dtls data now).1 ∧
      (readDtls data now session).2.isOk = (rtc.dtlsRead dtls data now).2.isOk := by
  cases read : rtc.dtlsRead dtls data now with
  | mk next result =>
    simp only [readDtls, there, read]
    cases result with
    | error error => exact ⟨rfl, rfl⟩
    | ok received =>
      refine ⟨?_, rfl⟩
      apply List.foldlRecOn (motive := fun after : Session rtc => after.dtls = some next)
      · rfl
      · intro after reached _ _
        exact reached

variable (log)

theorem handed_of_dtls (there : session.dtls = some dtls) : session.handed log = log.handed dtls := by
  rw [handed, there]
  rfl

theorem handed_readDtls (there : session.dtls.isSome = true) (data : Bytes) (now : Instant) :
    (readDtls data now session).1.dtls.isSome = true ∧
      (readDtls data now session).1.handed log =
        session.handed log ++ [(data, (readDtls data now session).2.isOk)] := by
  obtain ⟨dtls, there⟩ := Option.isSome_iff_exists.mp there
  obtain ⟨read, result⟩ := readDtls_cases there data now
  rw [handed_of_dtls log there, handed_of_dtls log read, read, result]
  exact ⟨rfl, log.read dtls data now⟩

theorem handedOver_each (there : session.dtls = some dtls) (packets : List Bytes) (now : Instant) :
    (Fallible.each packets (readDtls · now) session).1.dtls.isSome = true ∧
      (Fallible.each packets (readDtls · now) session).1.handed log = session.handed log ++ handedOver now dtls packets := by
  induction packets generalizing session dtls with
  | nil => exact ⟨Option.isSome_of_eq_some there, (List.append_nil _).symm⟩
  | cons data rest ih =>
    obtain ⟨next, result⟩ := readDtls_cases there data now
    have first := log.read dtls data now
    unfold handedOver
    cases outcome : readDtls data now session with
    | mk after value =>
      rw [outcome] at next result
      rw [← handed_of_dtls log there, ← handed_of_dtls log next] at first
      cases read : rtc.dtlsRead dtls data now with
      | mk left taken =>
        rw [read] at next result first
        cases value with
        | error error =>
          have stops : Fallible.each (data :: rest) (readDtls · now) session = (after, .error error) :=
            Fallible.bind_of_error outcome
          rw [stops]
          cases taken with
          | error e => exact ⟨Option.isSome_of_eq_some next, first⟩
          | ok received => cases result
        | ok value =>
          have goes : Fallible.each (data :: rest) (readDtls · now) session = Fallible.each rest (readDtls · now) after :=
            Fallible.bind_of_ok outcome
          rw [goes]
          cases taken with
          | error e => cases result
          | ok received =>
            obtain ⟨present, more⟩ := ih next
            refine ⟨present, ?_⟩
            rw [more, first, List.append_assoc]
            rfl

/-! ## A call -/

/-- A pump hands nothing over, or makes DTLS and hands it the early datagrams. -/
theorem pump_begins (session : Session rtc) (now : Instant) :
    Unread log session (pump now session).1 ∨
    (session.dtls.isSome = false ∧ (pump now session).1.dtls.isSome = true ∧
      ∃ dtls, session.pollIce.freshDtls now = some dtls ∧
        (pump now session).1.handed log = handedOver now dtls session.earlyPackets) := by
  have polled : Unread log session session.pollIce := (keeps_pollIce session).unread
  have rest : Unread log (startTransportsOnSelectedPair now session.pollIce).1 (pump now session).1 :=
    (Fallible.Obeys.rest (fun _ => keeps_pumpRest now) _ session.pollIce).unread
  rcases startTransportsOnSelectedPair_cases session.pollIce now with same | ⟨absent, role, fingerprint, waits, started⟩
  · rw [same] at rest
    exact .inl (trans_of (Unread log) polled rest)
  · rcases started with ⟨certificate, error, failed⟩ |
      ⟨remoteAddr, certificate, dtls, begun, selected, held, made, there, started⟩
    · rw [failed] at rest
      have gone : Unread log session.pollIce
          { session.pollIce with pendingRoleFingerprint := none, certificate := certificate } := ⟨rfl, rfl, rfl⟩
      exact .inl (trans_of (Unread log) polled (trans_of (Unread log) gone rest))
    · obtain ⟨present, handed⟩ := handedOver_each log there session.pollIce.earlyPackets now
      rw [handed_of_dtls log there, log.made made, List.nil_append, polled.early] at handed
      rw [started, polled.early] at rest
      rw [polled.early] at present
      refine .inr ⟨?_, rest.started.trans present, dtls, ?_, rest.handed.trans handed⟩
      · rw [← polled.started, absent]
        rfl
      · simp [freshDtls, selected, waits, held, made, Except.toOption]

theorem unread_beforePump (none : datagram rtc input = none) :
    Fallible.Obeys (Unread log) (beforePump input : SessionM rtc (Option Instant)) := by
  have parts : Parts input id fun _ => Fallible.Obeys (Unread log : Session rtc → Session rtc → Prop) := by
    refine parts_of_keeps (fun _ _ keeps => keeps.unread) fun data source now same other => ?_
    subst same
    simp [datagram, other] at none
  exact parts.beforePump fun _ _ _ _ _ => ⟨rfl, rfl, rfl⟩

/-- Every input but a datagram for DTLS hands nothing over, or starts the transports. -/
theorem begins_step (session : Session rtc) (none : datagram rtc input = none) :
    Unread log session (session.step input).1 ∨
    (session.dtls.isSome = false ∧ (session.step input).1.dtls.isSome = true ∧
      ∃ now dtls, session.starting input = some (now, dtls) ∧
        (session.step input).1.handed log = handedOver now dtls session.earlyPackets) := by
  have first := unread_beforePump log none session
  unfold step starting
  rw [handle_eq]
  cases outcome : beforePump input session with
  | mk before value =>
    rw [outcome] at first
    cases value with
    | error error =>
      rw [Fallible.bind_of_error outcome]
      exact .inl first
    | ok pumps =>
      rw [Fallible.bind_of_ok outcome]
      cases pumps with
      | none => exact .inl first
      | some now =>
        have last : Unread log (pump now before).1 ((pump now >>= fun _ => .modify (afterPump input)) before).1 :=
          (Fallible.Obeys.rest (fun _ => .modify (relates_afterPump keeps_pushWait input)) _ before).unread
        rcases pump_begins log before now with unread | ⟨absent, present, dtls, made, handed⟩
        · exact .inl (trans_of (Unread log) first (trans_of (Unread log) unread last))
        · refine .inr ⟨first.started.symm.trans absent, last.started.trans present, now, dtls, ?_, ?_⟩
          · dsimp only
            rw [made]
            rfl
          · rw [← first.early]
            exact last.handed.trans handed

omit log in
theorem datagram_eq_some (brings : datagram rtc input = some data) :
    ∃ source now, input = .packet data source now ∧ rtc.isStunMessage data = false := by
  cases input with
  | packet packet source now =>
    rw [datagram] at brings
    split at brings
    · cases brings
    · rename_i other
      cases brings
      exact ⟨source, now, rfl, Bool.eq_false_iff.mpr other⟩
  | _ => cases brings

omit log in
theorem dtls_bufferEarly (session : Session rtc) (data : Bytes) : (session.bufferEarly data).dtls = session.dtls := by
  unfold bufferEarly
  split <;> rfl

omit log in
theorem buffers_step (absent : session.dtls.isSome = false) (brings : datagram rtc input = some data) :
    (session.step input).1 = session.bufferEarly data := by
  obtain ⟨source, now, rfl, other⟩ := datagram_eq_some brings
  have missing : session.dtls.isNone = true := Option.isSome_eq_false_iff.mp absent
  rw [step, handle, handlePacket, if_neg (Bool.eq_false_iff.mp other), Fallible.bind_get, if_pos missing]
  rfl

theorem hands_step (there : session.dtls.isSome = true) (brings : datagram rtc input = some data) :
    (session.step input).1.dtls.isSome = true ∧
      ∃ taken, (session.step input).1.handed log = session.handed log ++ [(data, taken)] := by
  obtain ⟨source, now, rfl, other⟩ := datagram_eq_some brings
  have present : session.dtls.isNone = false := Option.isNone_eq_false_iff.mpr there
  rw [step, handle, handlePacket, if_neg (Bool.eq_false_iff.mp other), Fallible.bind_get,
    if_neg (Bool.eq_false_iff.mp present)]
  obtain ⟨stays, handed⟩ := handed_readDtls log there data now
  cases outcome : readDtls data now session with
  | mk after result =>
    rw [outcome] at stays handed
    cases result with
    | error error =>
      rw [Fallible.bind_of_error outcome]
      exact ⟨stays, _, handed⟩
    | ok =>
      rw [Fallible.bind_of_ok outcome]
      -- DTLS is there, so the pump does not start it
      rcases pump_begins log after now with unread | ⟨missing, -⟩
      · exact ⟨unread.started.trans stays, _, unread.handed.trans handed⟩
      · rw [missing] at stays
        cases stays

end Session

/-! ## Whole runs -/

def SessionCall.datagram (rtc : Rtc Candidate) : SessionCall Candidate → Option Bytes
  | .handle input => Session.datagram rtc input
  | .poll => none

theorem SessionCall.datagrams_cons (call : SessionCall Candidate) (rest : List (SessionCall Candidate)) :
    (call :: rest).filterMap (datagram rtc) = (call.datagram rtc).toList ++ rest.filterMap (datagram rtc) := by
  cases brings : call.datagram rtc <;> simp [brings]

variable {watched : WatchedSession rtc} {call : SessionCall Candidate}

namespace WatchedSession
variable (log : DtlsLog rtc)

/-- The transport that a call makes when it starts one, and the time. -/
def starting (watched : WatchedSession rtc) : SessionCall Candidate → Option (Instant × rtc.Dtls)
  | .handle input => watched.session.starting input
  | .poll => none

theorem begins_call (watched : WatchedSession rtc) (none : call.datagram rtc = none) :
    Session.Unread log watched.session (watched.step call).1.session ∨
    (watched.session.dtls.isSome = false ∧ (watched.step call).1.session.dtls.isSome = true ∧
      ∃ now dtls, watched.starting call = some (now, dtls) ∧
        (watched.step call).1.session.handed log = handedOver now dtls watched.session.earlyPackets) := by
  cases call with
  | handle input => exact Session.begins_step log watched.session none
  | poll =>
    obtain ⟨output, polled, -⟩ := poll_eq watched
    rw [polled]
    exact .inl ⟨rfl, rfl, rfl⟩

theorem hands_call (there : watched.session.dtls.isSome = true) (call : SessionCall Candidate) :
    (watched.step call).1.session.dtls.isSome = true ∧
      ((watched.step call).1.session.handed log).map Prod.fst =
        (watched.session.handed log).map Prod.fst ++ (call.datagram rtc).toList := by
  cases brings : call.datagram rtc with
  | none =>
    rcases begins_call log watched brings with unread | ⟨missing, -⟩
    · rw [unread.started, unread.handed]
      exact ⟨there, (List.append_nil _).symm⟩
    · rw [missing] at there
      cases there
  | some data =>
    cases call with
    | poll => cases brings
    | handle input =>
      obtain ⟨stays, taken, handed⟩ := Session.hands_step log there brings
      refine ⟨stays, ?_⟩
      rw [step, handed, List.map_append]
      rfl

theorem hands_run (there : watched.session.dtls.isSome = true) (calls : List (SessionCall Candidate)) :
    (run step watched calls).1.session.dtls.isSome = true ∧
      ((run step watched calls).1.session.handed log).map Prod.fst =
        (watched.session.handed log).map Prod.fst ++ calls.filterMap (SessionCall.datagram rtc) := by
  induction calls generalizing watched with
  | nil => exact ⟨there, (List.append_nil _).symm⟩
  | cons call rest ih =>
    obtain ⟨stays, handed⟩ := hands_call log there call
    obtain ⟨present, more⟩ := ih stays
    refine ⟨present, ?_⟩
    rw [run_cons, more, handed, List.append_assoc, SessionCall.datagrams_cons]

include log in
theorem early_call (few : watched.session.earlyPackets.length ≤ maxEarlyPackets)
    (absent : (watched.step call).1.session.dtls.isSome = false) :
    (watched.step call).1.session.earlyPackets =
      (watched.session.earlyPackets ++ (call.datagram rtc).toList).take maxEarlyPackets := by
  cases brings : call.datagram rtc with
  | none =>
    rcases begins_call log watched brings with unread | ⟨-, present, -⟩
    · rw [unread.early, Option.toList_none, List.append_nil, List.take_of_length_le few]
    · rw [absent] at present
      cases present
  | some data =>
    have missing : watched.session.dtls.isSome = false := by
      by_contra there
      rw [(hands_call log (Bool.not_eq_false _ ▸ there) call).1] at absent
      cases absent
    cases call with
    | poll => cases brings
    | handle input =>
      rw [step, Session.buffers_step missing brings, Session.bufferEarly, Option.toList_some]
      split
      · rename_i room
        rw [List.take_of_length_le]
        rw [List.length_append]
        exact room
      · rename_i full
        rw [List.take_append_of_le_length (Nat.le_of_not_lt full), List.take_of_length_le few]

include log in
/-- Without DTLS the first datagrams wait for it, in their order. -/
theorem early_run (few : watched.session.earlyPackets.length ≤ maxEarlyPackets) {calls : List (SessionCall Candidate)}
    (absent : (run step watched calls).1.session.dtls.isSome = false) :
    (run step watched calls).1.session.earlyPackets =
      (watched.session.earlyPackets ++ calls.filterMap (SessionCall.datagram rtc)).take maxEarlyPackets := by
  induction calls generalizing watched with
  | nil => simpa using (List.take_of_length_le few).symm
  | cons call rest ih =>
    have missing : (watched.step call).1.session.dtls.isSome = false := by
      by_contra there
      rw [run_cons, (hands_run log (Bool.not_eq_false _ ▸ there) rest).1] at absent
      cases absent
    have first := early_call log few missing
    have short : (watched.step call).1.session.earlyPackets.length ≤ maxEarlyPackets := by
      rw [first]
      exact List.length_take_le _ _
    rw [run_cons, ih short absent, first, SessionCall.datagrams_cons, ← List.append_assoc]
    generalize watched.session.earlyPackets ++ (call.datagram rtc).toList = all
    rw [List.take_append, List.take_append, List.take_take, Nat.min_self, List.length_take]
    congr 2
    omega

/-- When the transports start, the first eight datagrams are handed to DTLS once each and in order, before
every later one, exactly if the transport that is made takes each of them but the last. -/
theorem early_datagrams_handed_iff (localAddr : SocketAddr) (isControlling : Bool) (ice : rtc.Agent)
    (certificate : rtc.Certificate) (within : Duration) (before after : List (SessionCall Candidate))
    (call : SessionCall Candidate) :
    let waiting := (run step (start localAddr isControlling ice certificate within : WatchedSession rtc) before).1
    let started := (waiting.step call).1
    let early := (before.filterMap (SessionCall.datagram rtc)).take maxEarlyPackets
    waiting.session.dtls.isSome = false → started.session.dtls.isSome = true →
      ∃ now dtls, waiting.starting call = some (now, dtls) ∧
        (((run step started after).1.session.handed log).map Prod.fst =
            early ++ after.filterMap (SessionCall.datagram rtc) ↔
          Takes now dtls early.dropLast) := by
  intro waiting started early absent present
  have waits : waiting.session.earlyPackets = early := early_run log (Nat.zero_le _) absent
  cases brings : call.datagram rtc with
  | none =>
    rcases begins_call log waiting brings with unread | ⟨-, -, now, dtls, starts, handed⟩
    · exact absurd (present.symm.trans (unread.started.trans absent)) nofun
    · obtain ⟨-, later⟩ := hands_run log present after
      refine ⟨now, dtls, starts, ?_⟩
      rw [later, List.append_left_inj, handed, waits]
      exact handedOver_iff now dtls early
  | some data =>
    cases call with
    | poll => cases brings
    | handle input =>
      -- a datagram starts nothing, it waits like those before it
      have waitsToo : started.session = waiting.session.bufferEarly data := Session.buffers_step absent brings
      rw [waitsToo, Session.dtls_bufferEarly, absent] at present
      cases present

/-- DTLS takes handshake records only. -/
def handshakeRtc : Rtc Unit :=
  Rtc.recorded { Session.quietRtc with
    dtlsRead := fun _ data _ => ((), if data.head? = some 22 then .ok [] else .error "unexpected content type") }

def handshakeLog : DtlsLog handshakeRtc := Rtc.record _

def handshakeStart : WatchedSession handshakeRtc := start (.v4 0x7f000001 8) false () () 5

theorem handshake_flight_handed :
    let waiting := (run step handshakeStart [packetAt [22, 1] 0, packetAt [22, 2] 0]).1
    let started := (waiting.step (.handle Session.offered)).1
    (waiting.session.dtls.isSome = false ∧ started.session.dtls.isSome = true) ∧
      ((run step started [packetAt [22, 9] 0]).1.session.handed handshakeLog).map Prod.fst =
        [[22, 1], [22, 2]] ++ [[22, 9]] := by
  intro waiting started
  obtain ⟨now, dtls, -, handed⟩ := early_datagrams_handed_iff handshakeLog (.v4 0x7f000001 8) false () () 5
    [packetAt [22, 1] 0, packetAt [22, 2] 0] [packetAt [22, 9] 0] (.handle Session.offered)
    (by decide +kernel) (by decide +kernel)
  refine ⟨by decide +kernel, handed.mpr ?_⟩
  show Takes now dtls [[22, 1]]
  exact ⟨rfl, trivial⟩

/-- Behind a stray datagram that DTLS refuses, the handshake that waits with it is never handed over. -/
theorem stray_datagram_loses_flight :
    let waiting := (run step handshakeStart [packetAt [0] 0, packetAt [22, 1] 0, packetAt [22, 2] 0]).1
    let started := (waiting.step (.handle Session.offered)).1
    waiting.session.earlyPackets = [[0], [22, 1], [22, 2]] ∧ started.session.dtls.isSome = true ∧
      started.session.earlyPackets = [] ∧
      (run step started [packetAt [22, 9] 0]).1.session.handed handshakeLog = [([0], false), ([22, 9], true)] := by
  decide +kernel

end WatchedSession

end Nethernet
