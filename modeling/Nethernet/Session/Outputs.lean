import Nethernet.Session.Connection
import Nethernet.Session.Establish

/-! A session only adds to its outputs: what was queued before a call, and whether it has been
polled since, changes nothing about the call. -/

set_option autoImplicit false

namespace Nethernet
open Foundation

variable {Candidate : Type} {rtc : Rtc Candidate}

/-- The messages among the outputs, on one channel. -/
def SessionOutput.messages (channel : Channel) (outputs : List SessionOutput) : List Bytes :=
  outputs.filterMap fun
    | .message other data => if other = channel then some data else none
    | _ => none

theorem SessionOutput.messages_append (channel : Channel) (outputs more : List SessionOutput) :
    messages channel (outputs ++ more) = messages channel outputs ++ messages channel more :=
  List.filterMap_append

namespace Session

-- the same session, behind earlier outputs
def behind (earlier : List SessionOutput) (session : Session rtc) : Session rtc :=
  { session with output := earlier ++ session.output }

/-- What is queued before a call does not change what the call does. -/
theorem handle_behind (earlier : List SessionOutput) (session : Session rtc) (input : SessionInput Candidate) :
    handle input (session.behind earlier) = ((handle input session).1.behind earlier, (handle input session).2) := by
  have timeless : session.Timeless id := .inl rfl
  exact recast_handle timeless input

end Session

/-! ## The connection -/

-- what a signal for this connection tells the session
def Signal.tells (crates : WebrtcCrates) (signal : Signal) (now : Instant) : Option (SessionInput crates.Candidate) :=
  match signal.signalType with
  | .answer => (Description.parse crates signal.data).toOption.map fun read => .remoteDescription read.1 read.2 now
  | .candidate => (parseIceCandidate crates signal.data).toOption.map fun candidate => .remoteCandidate candidate now
  | .error | .offer => none

namespace Connection
variable {crates : WebrtcCrates} {rtc : Rtc crates.Candidate}

def routed (connection : Connection rtc) : ConnectionInput → Option (SessionInput crates.Candidate)
  | .packet data source now => some (.packet data source now)
  | .timeout now => some (.timeout now)
  | .send channel data now => some (.send channel data now)
  | .signal signal now => if connection.concerns signal then signal.tells crates now else none

-- the identity that a description brings
def described : SessionInput crates.Candidate → Option (Option String)
  | .remoteDescription remote .. => some remote.identity
  | _ => none

def told (connection : Connection rtc) (input : SessionInput crates.Candidate) : Connection rtc :=
  { connection with
    session := (Session.handle input connection.session).1
    remoteIdentity := (described input).getD connection.remoteIdentity }

variable (connection : Connection rtc)

/-- A connection changes only by what it passes on to its session. -/
theorem handle_routed (input : ConnectionInput) :
    (connection.handle input).1 = (connection.routed input).elim connection connection.told := by
  cases input with
  | packet data source now => rfl
  | timeout now => rfl
  | send channel data now => rfl
  | signal signal now =>
    by_cases concerned : connection.concerns signal = true
    · simp only [handle, handleSignal, routed, concerned, if_true, Signal.tells, Bool.not_true, Bool.false_eq_true, if_false]
      cases signal.signalType with
      | answer => cases Description.parse crates signal.data <;> rfl
      | candidate => cases parseIceCandidate crates signal.data <;> rfl
      | error => rfl
      | offer => rfl
    · simp [handle, handleSignal, routed, concerned]

-- the same connection, behind earlier outputs
def behind (earlier : List SessionOutput) (connection : Connection rtc) : Connection rtc :=
  { connection with session := connection.session.behind earlier }

theorem handle_behind (earlier : List SessionOutput) (connection : Connection rtc) (input : ConnectionInput) :
    ((connection.behind earlier).handle input).1 = (connection.handle input).1.behind earlier := by
  rw [handle_routed, handle_routed, show (connection.behind earlier).routed input = connection.routed input from rfl]
  cases connection.routed input with
  | none => rfl
  | some input =>
    simp only [Option.elim_some, told, behind, Session.handle_behind]

/-- The connection after it was given the inputs in turn and never polled. -/
def fed (connection : Connection rtc) (inputs : List ConnectionInput) : Connection rtc :=
  inputs.foldl (fun connection input => (connection.handle input).1) connection

theorem fed_append (inputs more : List ConnectionInput) :
    connection.fed (inputs ++ more) = (connection.fed inputs).fed more :=
  List.foldl_append

end Connection

end Nethernet
