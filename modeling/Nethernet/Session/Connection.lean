import Nethernet.Protocol.Signal
import Nethernet.Session.Session
import Nethernet.Webrtc.Description

/-! One NetherNet connection: a session bound to a connection id and a remote
network id, with its offer, answer and candidate signals. -/

set_option autoImplicit false

namespace Nethernet
open Foundation

inductive IceMode where
  | full
  | trickle
  deriving DecidableEq, Repr

/-- Deadlines for the transport drivers to enforce. -/
structure Timeouts where
  negotiation : Duration := .fromSecs 15
  start : Duration := .fromSecs 5
  channel : Duration := .fromSecs 5
  deriving DecidableEq, Repr

def Timeouts.establish (timeouts : Timeouts) : Duration := timeouts.start + timeouts.channel

/-- How a description and a candidate are written, and the candidates an agent gathered. -/
structure DescriptionWriter (crates : WebrtcCrates) (rtc : Rtc crates.Candidate) where
  encodeTrickle : Description → String
  encodeFull : Description → List crates.Candidate → String
  marshalCandidate : crates.Candidate → String
  localCandidates : rtc.Agent → List crates.Candidate

structure Connection {crates : WebrtcCrates} (rtc : Rtc crates.Candidate) where
  session : Session rtc
  connectionId : UInt64
  remoteNetworkId : String
  remoteIdentity : Option String

inductive ConnectionInput where
  | packet (data : Bytes) (source : SocketAddr) (now : Instant)
  | timeout (now : Instant)
  | signal (signal : Signal) (now : Instant)
  | send (channel : Channel) (data : Bytes) (now : Instant)

namespace Connection
variable {crates : WebrtcCrates} {rtc : Rtc crates.Candidate}

def formatIceCandidate (writer : DescriptionWriter crates rtc) (index : Nat) (candidate : crates.Candidate)
    (ufrag : String) : String :=
  "candidate:" ++ writer.marshalCandidate candidate ++ " generation 0 ufrag " ++ ufrag
    ++ " network-id " ++ toString index ++ " network-cost 0"

-- the description's own signal, then in trickle mode one signal for each candidate
def describe (writer : DescriptionWriter crates rtc) (session : Session rtc) (description : Description)
    (iceMode : IceMode) (connectionId : UInt64) (remoteNetworkId : String) (kind : SignalType) : List Signal :=
  let candidates := writer.localCandidates session.ice
  match iceMode with
  | .full => [⟨kind, connectionId, writer.encodeFull description candidates, remoteNetworkId⟩]
  | .trickle =>
    ⟨kind, connectionId, writer.encodeTrickle description, remoteNetworkId⟩ ::
      candidates.map fun candidate =>
        ⟨.candidate, connectionId, formatIceCandidate writer 0 candidate description.ice.ufrag, remoteNetworkId⟩

def connect (writer : DescriptionWriter crates rtc) (session : Session rtc) (description : Description)
    (connectionId : UInt64) (remoteNetworkId : String) (iceMode : IceMode) : Connection rtc × List Signal :=
  (⟨session, connectionId, remoteNetworkId, none⟩,
    describe writer session description iceMode connectionId remoteNetworkId .offer)

def parseOffer (crates : WebrtcCrates) (offer : Signal) : Except ProtocolError (Description × List crates.Candidate) :=
  if offer.signalType ≠ .offer then .error (.other "expected an offer signal")
  else Description.parse crates offer.data

-- a parsed offer is applied to the session, and the connection adopts the offer's ids
def accept (writer : DescriptionWriter crates rtc) (session : Session rtc) (description : Description)
    (offer : Signal) (remoteDescription : Description) (remoteCandidates : List crates.Candidate)
    (iceMode : IceMode) (now : Instant) : Except ProtocolError (Connection rtc × List Signal) :=
  if offer.signalType ≠ .offer then .error (.other "expected an offer signal")
  else
    match Session.handle (.remoteDescription remoteDescription remoteCandidates now) session with
    | (_, .error error) => .error error
    | (session, .ok ()) =>
      .ok (⟨session, offer.connectionId, offer.networkId, remoteDescription.identity⟩,
        describe writer session description iceMode offer.connectionId offer.networkId .answer)

/-- What an operation of the session does to the connection. -/
def onSession (connection : Connection rtc) (operation : SessionM rtc Unit) :
    Connection rtc × Except ProtocolError Unit :=
  ({ connection with session := (operation connection.session).1 }, (operation connection.session).2)

def concerns (connection : Connection rtc) (signal : Signal) : Bool :=
  signal.connectionId = connection.connectionId && signal.networkId = connection.remoteNetworkId

def handleSignal (connection : Connection rtc) (signal : Signal) (now : Instant) :
    Connection rtc × Except ProtocolError Unit :=
  if !connection.concerns signal then (connection, .ok ())
  else
    match signal.signalType with
    | .answer =>
      match Description.parse crates signal.data with
      | .error error => (connection, .error error)
      | .ok (description, candidates) =>
        { connection with remoteIdentity := description.identity }.onSession
          (Session.handle (.remoteDescription description candidates now))
    | .candidate =>
      match parseIceCandidate crates signal.data with
      | .error error => (connection, .error error)
      | .ok candidate => connection.onSession (Session.handle (.remoteCandidate candidate now))
    | .error => (connection, .error (.other ("remote signaled a connection error: " ++ signal.data)))
    | .offer => (connection, .ok ())

def handle (connection : Connection rtc) (input : ConnectionInput) : Connection rtc × Except ProtocolError Unit :=
  match input with
  | .packet data source now => connection.onSession (Session.handle (.packet data source now))
  | .timeout now => connection.onSession (Session.handle (.timeout now))
  | .signal signal now => connection.handleSignal signal now
  | .send channel data now => connection.onSession (Session.handle (.send channel data now))

def remoteAddr (connection : Connection rtc) : Option SocketAddr := connection.session.remoteAddr

def rtt (connection : Connection rtc) : Option Duration := connection.session.rtt

-- `poll` until it returns nothing
def takeOutputs (connection : Connection rtc) : Connection rtc × List SessionOutput :=
  ({ connection with session := { connection.session with output := [] } }, connection.session.output)

/-- The pair of ids a connection is bound to. -/
def ids (connection : Connection rtc) : UInt64 × String := (connection.connectionId, connection.remoteNetworkId)

theorem ids_handle (connection : Connection rtc) (input : ConnectionInput) :
    (connection.handle input).1.ids = connection.ids := by
  cases input with
  | packet data source now => rfl
  | timeout now => rfl
  | send channel data now => rfl
  | signal signal now =>
    simp only [handle, handleSignal]
    repeat' split
    all_goals rfl

-- a signal for another pair is ignored
theorem handle_foreign {connection : Connection rtc} {signal : Signal}
    (foreign : (signal.connectionId, signal.networkId) ≠ connection.ids) (now : Instant) :
    connection.handle (.signal signal now) = (connection, .ok ()) := by
  have unconcerned : connection.concerns signal = false := by
    rw [Bool.eq_false_iff]
    intro concerned
    simp only [concerns, Bool.and_eq_true, decide_eq_true_eq] at concerned
    exact foreign (Prod.ext concerned.1 concerned.2)
  simp [handle, handleSignal, unconcerned]

end Connection

end Nethernet
