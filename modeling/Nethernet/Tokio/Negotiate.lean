import Nethernet.Identity.Trust
import Nethernet.Session.Connection
import Nethernet.Session.Opens

/-! The loop in which the async client waits for the answer and the candidates
of the peer it dials. -/

set_option autoImplicit false

namespace Nethernet.Tokio
open Foundation Identity

/-- The errors a negotiation can end with. -/
inductive NetherError where
  | protocol (error : ProtocolError)
  | identity (error : IdentityError)
  | connectionClosed
  | timeout
  | signaled (code : SignalErrorCode)
  | other (text : String)
  deriving DecidableEq, Repr

def parseErrorCode (data : String) : SignalErrorCode :=
  match parseUnsigned (2 ^ 32) (trim data.toList) with
  | .ok code => .ofU32 code
  | .error _ => .signalingUnknownError

structure Heard where
  signal : Signal
  now : Instant
  wall : SystemTime

/-- What the wait for a signal can end with. -/
inductive Arrival where
  | signal (heard : Heard)
  | closed
  | deadline

structure Negotiation {crates : WebrtcCrates} (rtc : Rtc crates.Candidate) where
  connection : Connection rtc
  needCandidate : Bool

inductive Progress {crates : WebrtcCrates} (rtc : Rtc crates.Candidate) where
  | waiting (negotiation : Negotiation rtc)
  | negotiated (connection : Connection rtc)
  | failed (code : Option SignalErrorCode) (error : NetherError)
  -- the check of an answer's identity panicked
  | aborted

namespace Progress
variable {crates : WebrtcCrates} {rtc : Rtc crates.Candidate}

def ended : Progress rtc → Bool
  | .waiting _ => false
  | _ => true

-- an iteration that ended the loop is its end
def andThen (progress : Progress rtc) (next : Negotiation rtc → Progress rtc) : Progress rtc :=
  match progress with
  | .waiting negotiation => next negotiation
  | ended => ended

theorem ended_andThen {progress : Progress rtc} (ended : progress.ended = true)
    (next : Negotiation rtc → Progress rtc) : (progress.andThen next).ended = true := by
  cases progress with
  | waiting negotiation => cases ended
  | negotiated connection => rfl
  | failed code error => rfl
  | aborted => rfl

end Progress

variable {heard : Heard}

section
variable {crates : WebrtcCrates} {rtc : Rtc crates.Candidate} (identity : IdentityCrates) (trust : Option TokenTrust)

namespace Negotiation

def begin (connection : Connection rtc) (iceMode : IceMode) : Negotiation rtc := ⟨connection, iceMode = .trickle⟩

-- the test at the end of the loop body
def check (negotiation : Negotiation rtc) : Progress rtc :=
  if negotiation.connection.remoteAddr.isSome && !negotiation.needCandidate then .negotiated negotiation.connection
  else .waiting negotiation

def handleAnswer (negotiation : Negotiation rtc) (heard : Heard) : Progress rtc :=
  match verifyAnswer identity heard.signal.data trust heard.wall with
  | .aborted => .aborted
  | .err error => .failed (some .failedToSetRemoteDescription) (.identity error)
  | .ok _ =>
    let (connection, result) := negotiation.connection.handle (.signal heard.signal heard.now)
    match result with
    | .error error => .failed (some .failedToSetRemoteDescription) (.protocol error)
    | .ok () =>
      if !negotiation.needCandidate then .negotiated connection
      else check { negotiation with connection := connection }

def handleCandidate (negotiation : Negotiation rtc) (heard : Heard) : Progress rtc :=
  let (connection, result) := negotiation.connection.handle (.signal heard.signal heard.now)
  match result with
  | .error error => .failed (some .ice) (.protocol error)
  | .ok () => check ⟨connection, false⟩

def hear (negotiation : Negotiation rtc) (heard : Heard) : Progress rtc :=
  match heard.signal.signalType with
  | .answer => negotiation.handleAnswer identity trust heard
  | .candidate => negotiation.handleCandidate heard
  | .error => .failed none (.signaled (parseErrorCode heard.signal.data))
  | .offer => .failed (some .incomingConnectionIgnored) (.other "received offer while dialing")

end Negotiation

/-- The loop, as far as the arrivals so far carry it; signals for other ids are passed over. -/
def negotiate (negotiation : Negotiation rtc) : List Arrival → Progress rtc
  | [] => .waiting negotiation
  | .deadline :: _ => .failed (some .negotiationTimeoutWaitingForResponse) .timeout
  | .closed :: _ => .failed none .connectionClosed
  | .signal heard :: rest =>
    if !negotiation.connection.concerns heard.signal then negotiate negotiation rest
    else (negotiation.hear identity trust heard).andThen fun negotiation => negotiate negotiation rest

/-! ## When the loop ends -/

/-- The connection after it handled the signals. -/
def handled (connection : Connection rtc) (heard : List Heard) : Connection rtc :=
  heard.foldl (fun connection heard => (connection.handle (.signal heard.signal heard.now)).1) connection

theorem concerns_handle (connection : Connection rtc) (input : ConnectionInput) (signal : Signal) :
    (connection.handle input).1.concerns signal = connection.concerns signal := by
  have same := Prod.ext_iff.mp (connection.ids_handle input)
  simp only [Connection.ids] at same
  simp only [Connection.concerns, same.1, same.2]

theorem negotiate_ours {negotiation : Negotiation rtc} (ours : negotiation.connection.concerns heard.signal = true)
    (rest : List Arrival) :
    negotiate identity trust negotiation (.signal heard :: rest) =
      (negotiation.hear identity trust heard).andThen fun negotiation => negotiate identity trust negotiation rest := by
  rw [negotiate, ours]
  rfl

variable (negotiation : Negotiation rtc)

theorem negotiate_append (first rest : List Arrival) :
    negotiate identity trust negotiation (first ++ rest) =
      (negotiate identity trust negotiation first).andThen fun negotiation => negotiate identity trust negotiation rest := by
  induction first generalizing negotiation with
  | nil => rfl
  | cons arrival first ih =>
    cases arrival with
    | closed => rfl
    | deadline => rfl
    | signal heard =>
      simp only [List.cons_append, negotiate]
      split
      · exact ih negotiation
      · cases negotiation.hear identity trust heard with
        | waiting next => exact ih next
        | negotiated connection => rfl
        | failed code error => rfl
        | aborted => rfl

theorem check_unselected {negotiation : Negotiation rtc} (unselected : negotiation.connection.remoteAddr = none) :
    negotiation.check = .waiting negotiation := by
  simp [Negotiation.check, unselected]

/-- The identity of an answer is not accepted, or the connection does not take the signal. -/
def Refused (connection : Connection rtc) (heard : Heard) : Prop :=
  (heard.signal.signalType = .answer ∧
    ∀ claims, verifyAnswer identity heard.signal.data trust heard.wall ≠ .ok claims) ∨
  ∃ error, (connection.handle (.signal heard.signal heard.now)).2 = .error error

/-- One of the signals is refused by the connection that handled those before it. -/
def AnyRefused (connection : Connection rtc) : List Heard → Prop
  | [] => False
  | heard :: rest => Refused identity trust connection heard ∨ AnyRefused (handled connection [heard]) rest

-- an answer that is not refused ends the loop if a candidate came before
theorem hear_answer (answer : heard.signal.signalType = .answer)
    (unselected : (handled negotiation.connection [heard]).remoteAddr = none) :
    (Refused identity trust negotiation.connection heard ∧ (negotiation.hear identity trust heard).ended = true) ∨
      (¬Refused identity trust negotiation.connection heard ∧ negotiation.hear identity trust heard =
        if negotiation.needCandidate then .waiting ⟨handled negotiation.connection [heard], true⟩
        else .negotiated (handled negotiation.connection [heard])) := by
  simp only [Negotiation.hear, answer, Negotiation.handleAnswer, Refused, true_and]
  cases verifyAnswer identity heard.signal.data trust heard.wall with
  | aborted => exact .inl ⟨.inl nofun, rfl⟩
  | err error => exact .inl ⟨.inl nofun, rfl⟩
  | ok claims =>
    cases taken : (negotiation.connection.handle (.signal heard.signal heard.now)).2 with
    | error error => exact .inl ⟨.inr ⟨error, rfl⟩, rfl⟩
    | ok done =>
      refine .inr ⟨by simp, ?_⟩
      cases needed : negotiation.needCandidate with
      | true => exact check_unselected unselected
      | false => rfl

-- a candidate that is not refused is noted, and the loop goes on
theorem hear_candidate (candidate : heard.signal.signalType = .candidate)
    (unselected : (handled negotiation.connection [heard]).remoteAddr = none) :
    (Refused identity trust negotiation.connection heard ∧ (negotiation.hear identity trust heard).ended = true) ∨
      (¬Refused identity trust negotiation.connection heard ∧
        negotiation.hear identity trust heard = .waiting ⟨handled negotiation.connection [heard], false⟩) := by
  simp only [Negotiation.hear, candidate, Negotiation.handleCandidate, Refused, reduceCtorEq, false_and, false_or]
  cases taken : (negotiation.connection.handle (.signal heard.signal heard.now)).2 with
  | error error => exact .inl ⟨⟨error, rfl⟩, rfl⟩
  | ok done => exact .inr ⟨by simp, check_unselected unselected⟩

section
variable {connection : Connection rtc} {heards : List Heard}

/-- No candidate pair is selected while the connection handles the signals. -/
def Unselected (connection : Connection rtc) (heards : List Heard) : Prop :=
  ∀ front, front <+: heards → (handled connection front).remoteAddr = none

/-- The signals are for this connection. -/
def Ours (connection : Connection rtc) (heards : List Heard) : Prop :=
  ∀ heard ∈ heards, connection.concerns heard.signal = true

theorem Unselected.head (unselected : Unselected connection (heard :: heards)) :
    (handled connection [heard]).remoteAddr = none :=
  unselected [heard] ((List.prefix_cons_inj heard).mpr List.nil_prefix)

theorem Unselected.tail (unselected : Unselected connection (heard :: heards)) :
    Unselected (handled connection [heard]) heards :=
  fun front initial => unselected (heard :: front) ((List.prefix_cons_inj heard).mpr initial)

theorem Ours.tail (ours : Ours connection (heard :: heards)) : Ours (handled connection [heard]) heards := by
  intro other member
  rw [handled, List.foldl_cons, List.foldl_nil, concerns_handle]
  exact ours other (List.mem_cons_of_mem heard member)

/-- Answers alone end the loop if one is refused, and else leave it waiting for a candidate. -/
theorem negotiate_answers (ours : Ours connection heards) (unselected : Unselected connection heards)
    (answers : ∀ heard ∈ heards, heard.signal.signalType = .answer) :
    (AnyRefused identity trust connection heards ∧
      (negotiate identity trust ⟨connection, true⟩ (heards.map .signal)).ended = true) ∨
    (¬AnyRefused identity trust connection heards ∧
      negotiate identity trust ⟨connection, true⟩ (heards.map .signal) = .waiting ⟨handled connection heards, true⟩) := by
  induction heards generalizing connection with
  | nil => exact .inr ⟨id, rfl⟩
  | cons heard rest ih =>
    rw [List.map_cons, negotiate_ours identity trust (ours heard List.mem_cons_self), AnyRefused]
    rcases hear_answer identity trust ⟨connection, true⟩ (answers heard List.mem_cons_self) unselected.head with
      ⟨refused, ends⟩ | ⟨taken, waits⟩
    · exact .inl ⟨.inl refused, Progress.ended_andThen ends _⟩
    · rw [waits, or_iff_right taken]
      exact ih ours.tail unselected.tail fun other member => answers other (List.mem_cons_of_mem heard member)

/-- Candidates alone end the loop if one is refused, and else leave it waiting, after the first of them without
need of another. -/
theorem negotiate_candidates (ours : Ours connection heards) (unselected : Unselected connection heards)
    (candidates : ∀ heard ∈ heards, heard.signal.signalType = .candidate) (needed : Bool) :
    (negotiate identity trust ⟨connection, needed⟩ (heards.map .signal)).ended = true ∨
      negotiate identity trust ⟨connection, needed⟩ (heards.map .signal) =
        .waiting ⟨handled connection heards, needed && heards.isEmpty⟩ := by
  induction heards generalizing connection needed with
  | nil => exact .inr (by rw [List.isEmpty_nil, Bool.and_true]; rfl)
  | cons heard rest ih =>
    rw [List.map_cons, negotiate_ours identity trust (ours heard List.mem_cons_self)]
    rcases hear_candidate identity trust ⟨connection, needed⟩ (candidates heard List.mem_cons_self) unselected.head with
      ⟨-, ends⟩ | ⟨-, waits⟩
    · exact .inl (Progress.ended_andThen ends _)
    · rw [waits, List.isEmpty_cons, Bool.and_false]
      have rest := ih ours.tail unselected.tail (fun other member => candidates other (List.mem_cons_of_mem heard member))
        false
      rwa [Bool.false_and] at rest

theorem anyRefused_snoc (connection : Connection rtc) (before : List Heard) (last : Heard) :
    AnyRefused identity trust connection (before ++ [last]) ↔
      AnyRefused identity trust connection before ∨ Refused identity trust (handled connection before) last := by
  induction before generalizing connection with
  | nil => exact or_comm
  | cons heard rest ih =>
    rw [List.cons_append, AnyRefused, ih, AnyRefused, or_assoc]
    rfl

theorem negotiate_snoc (connection : Connection rtc) (before : List Heard) (last : Heard) :
    negotiate identity trust ⟨connection, true⟩ ((before ++ [last]).map .signal) =
      (negotiate identity trust ⟨connection, true⟩ (before.map .signal)).andThen
        fun negotiation => negotiate identity trust negotiation [.signal last] := by
  rw [List.map_append, negotiate_append]
  rfl

theorem handled_snoc (connection : Connection rtc) (before : List Heard) (last : Heard) :
    handled (handled connection before) [last] = handled connection (before ++ [last]) :=
  (List.foldl_append ..).symm

theorem concerns_handled (connection : Connection rtc) (before : List Heard) (signal : Signal) :
    (handled connection before).concerns signal = connection.concerns signal := by
  induction before generalizing connection with
  | nil => rfl
  | cons heard rest ih => exact (ih _).trans (concerns_handle connection _ signal)

end

def hasAnswer (heards : List Heard) : Bool := heards.any (·.signal.signalType = .answer)

def hasCandidate (heards : List Heard) : Bool := heards.any (·.signal.signalType = .candidate)

section
variable {connection : Connection rtc} {before : List Heard} {last : Heard}

theorem Ours.init (ours : Ours connection (before ++ [last])) : Ours connection before :=
  fun heard member => ours heard (List.mem_append_left _ member)

theorem Ours.concerns_last (ours : Ours connection (before ++ [last])) :
    (handled connection before).concerns last.signal = true := by
  rw [concerns_handled]
  exact ours last (List.mem_append_right _ List.mem_cons_self)

theorem Unselected.init (unselected : Unselected connection (before ++ [last])) : Unselected connection before :=
  fun front initial => unselected front (initial.trans (List.prefix_append _ _))

theorem Unselected.remoteAddr_last (unselected : Unselected connection (before ++ [last])) :
    (handled (handled connection before) [last]).remoteAddr = none := by
  rw [handled_snoc]
  exact unselected _ List.prefix_rfl

theorem ends_with_answer (ours : Ours connection (before ++ [last]))
    (unselected : Unselected connection (before ++ [last]))
    (candidates : ∀ heard ∈ before, heard.signal.signalType = .candidate) (some : before ≠ [])
    (answer : last.signal.signalType = .answer) :
    (negotiate identity trust ⟨connection, true⟩ ((before ++ [last]).map .signal)).ended = true := by
  rw [negotiate_snoc]
  rcases negotiate_candidates identity trust ours.init unselected.init candidates true with ends | waits
  · exact Progress.ended_andThen ends _
  · rw [List.isEmpty_eq_false_iff.mpr some, Bool.and_false] at waits
    rw [waits, Progress.andThen, negotiate_ours identity trust ours.concerns_last]
    rcases hear_answer identity trust ⟨handled connection before, false⟩ answer unselected.remoteAddr_last with
      ⟨-, ends⟩ | ⟨-, done⟩
    · exact Progress.ended_andThen ends _
    · rw [done]
      rfl

theorem ends_with_candidate_iff (ours : Ours connection (before ++ [last]))
    (unselected : Unselected connection (before ++ [last]))
    (answers : ∀ heard ∈ before, heard.signal.signalType = .answer)
    (candidate : last.signal.signalType = .candidate) :
    (negotiate identity trust ⟨connection, true⟩ ((before ++ [last]).map .signal)).ended = true ↔
      AnyRefused identity trust connection (before ++ [last]) := by
  rw [negotiate_snoc, anyRefused_snoc]
  rcases negotiate_answers identity trust ours.init unselected.init answers with ⟨refused, ends⟩ | ⟨taken, waits⟩
  · exact iff_of_true (Progress.ended_andThen ends _) (.inl refused)
  · rw [waits, Progress.andThen, negotiate_ours identity trust ours.concerns_last, or_iff_right taken]
    rcases hear_candidate identity trust ⟨handled connection before, true⟩ candidate unselected.remoteAddr_last with
      ⟨refused, ends⟩ | ⟨taken, goesOn⟩
    · exact iff_of_true (Progress.ended_andThen ends _) refused
    · rw [goesOn]
      exact iff_of_false nofun taken

end

/-- Of answers and candidates for the connection, the signal that completes the pair ends the
negotiation exactly if it is the answer, or if a signal was refused. -/
theorem negotiate_ends_iff (connection : Connection rtc) (before : List Heard) (last : Heard)
    (ours : Ours connection (before ++ [last])) (unselected : Unselected connection (before ++ [last]))
    (kinds : ∀ heard ∈ before ++ [last], heard.signal.signalType = .answer ∨ heard.signal.signalType = .candidate)
    (both : (hasAnswer (before ++ [last]) && hasCandidate (before ++ [last])) = true)
    (first : (hasAnswer before && hasCandidate before) = false) :
    (negotiate identity trust (.begin connection .trickle) ((before ++ [last]).map .signal)).ended = true ↔
      last.signal.signalType = .answer ∨ AnyRefused identity trust connection (before ++ [last]) := by
  have others : ∀ heard ∈ before, heard.signal.signalType = .answer ∨ heard.signal.signalType = .candidate :=
    fun heard member => kinds heard (List.mem_append_left _ member)
  simp only [hasAnswer, hasCandidate, List.any_append, List.any_cons, List.any_nil, Bool.or_false] at both first
  rcases kinds last (List.mem_append_right _ List.mem_cons_self) with answer | candidate
  · -- the pair is completed by an answer, so only candidates came before
    simp only [answer, reduceCtorEq, decide_true, decide_false, Bool.or_true, Bool.or_false, Bool.true_and] at both
    rw [both, Bool.and_true, List.any_eq_false] at first
    have candidates : ∀ heard ∈ before, heard.signal.signalType = .candidate := fun heard member =>
      (others heard member).resolve_left fun same => first heard member (decide_eq_true same)
    have some : before ≠ [] := by
      intro empty
      rw [empty] at both
      cases both
    exact ⟨fun _ => .inl answer, fun _ => ends_with_answer identity trust ours unselected candidates some answer⟩
  · simp only [candidate, reduceCtorEq, decide_true, decide_false, Bool.or_true, Bool.or_false, Bool.and_true] at both
    rw [both, Bool.true_and, List.any_eq_false] at first
    have answers : ∀ heard ∈ before, heard.signal.signalType = .answer := fun heard member =>
      (others heard member).resolve_right fun same => first heard member (decide_eq_true same)
    rw [candidate, or_iff_right nofun]
    exact ends_with_candidate_iff identity trust ours unselected answers candidate

/-! ## The two orders of one answer and one candidate -/

def plainMedia : MediaDescription :=
  ⟨[⟨"ice-ufrag", some "u"⟩, ⟨"ice-pwd", some "p"⟩, ⟨"fingerprint", some "sha-256 AB:CD"⟩, ⟨"setup", some "active"⟩]⟩

/-- Readers that know one description and one candidate. -/
def plainCrates : WebrtcCrates where
  Candidate := Unit
  unmarshal text := if text = "v=0" then .ok ⟨[], [plainMedia]⟩ else .error "no description"
  unmarshalCandidate text := if text = "1 1 udp 1 127.0.0.1 7 typ host" then .ok () else .error "no candidate"

/-- Stacks on a path that is not up yet. -/
def waitingRtc : Rtc plainCrates.Candidate := { Session.quietRtc with selectedRemote := fun _ => none }

def dialed : Connection waitingRtc := ⟨.new (.v4 0x7f000001 8) true () (), 1, "7", none⟩

def goodAnswer : Heard := ⟨⟨.answer, 1, "v=0", "7"⟩, 0, .unixEpoch⟩

def goodCandidate : Heard := ⟨⟨.candidate, 1, "candidate:1 1 udp 1 127.0.0.1 7 typ host", "7"⟩, 0, .unixEpoch⟩

theorem candidate_then_answer_ends :
    (negotiate lastExpCrates none (.begin dialed .trickle) ([goodCandidate, goodAnswer].map .signal)).ended = true := by
  have unselected : Unselected dialed [goodCandidate, goodAnswer] := by
    intro front initial
    rcases List.prefix_cons_iff.mp initial with rfl | ⟨later, rfl, after⟩
    · decide +kernel
    · rcases List.prefix_cons_iff.mp after with rfl | ⟨last, rfl, none⟩
      · decide +kernel
      · rw [List.prefix_nil.mp none]
        decide +kernel
  refine (negotiate_ends_iff lastExpCrates none dialed [goodCandidate] goodAnswer ?_ unselected ?_ ?_ ?_).mpr (.inl rfl)
  · unfold Ours
    decide +kernel
  · decide +kernel
  · decide +kernel
  · decide +kernel

/-- Both were accepted, in the other order, and the loop still waits. -/
theorem answer_then_candidate_waits :
    (dialed.handle (.signal goodAnswer.signal 0)).2 = .ok () ∧
    ((handled dialed [goodAnswer]).handle (.signal goodCandidate.signal 0)).2 = .ok () ∧
    (handled dialed [goodAnswer, goodCandidate]).remoteAddr = none ∧
    (negotiate lastExpCrates none (.begin dialed .trickle) ([goodAnswer, goodCandidate].map .signal)).ended = false := by
  decide +kernel

end

end Nethernet.Tokio
