import Nethernet.Http.Signaler
import Nethernet.Session.Connection

/-! What the servers share: the policy an offer is admitted under, the limits on
offers that are not yet established, and the commands and events of the pool
that drives the sessions. -/

set_option autoImplicit false

namespace Nethernet
open Identity

/-- Why an offer was refused. -/
inductive AdmissionError where
  | description (error : ProtocolError)
  | untrusted (error : IdentityError)
  | session (error : ProtocolError)
  | answer (error : ProtocolError)
  | signing (error : IdentityError)

def AdmissionError.code : AdmissionError → SignalErrorCode
  | .description _ => .failedToSetRemoteDescription
  | .untrusted _ => .notLoggedIn
  | .session _ => .failedToCreatePeerConnection
  | .answer _ | .signing _ => .failedToCreateAnswer

/-- Server settings applied to every offer. -/
structure OfferPolicy (ServerIdentity : Type) where
  identity : Option ServerIdentity
  tokenTrust : Option TokenTrust
  inferPeerCandidates : Bool
  iceMode : IceMode
  establishDeadline : Option Duration

/-- The accepted connection and the signals to send back. -/
structure Answered (Link : Type) where
  connection : Link
  signals : List Signal
  player : Option PlayerInfo
  localUfrag : String

structure PendingLimits where
  maxPending : Nat := 64
  maxPendingPerNetworkId : Nat := 4
  deriving DecidableEq, Repr

-- `pending` holds the network id of each unestablished session
def admitsOffer (pending : List String) (networkId : String) (limits : PendingLimits) : Bool :=
  pending.length < limits.maxPending && pending.count networkId < limits.maxPendingPerNetworkId

structure NetherSessionId where
  networkId : String
  connectionId : UInt64
  deriving DecidableEq, Repr

inductive PoolCommand (Key Link : Type) where
  | add (key : Key) (connection : Link) (localUfrag : String)
  | signal (key : Key) (signal : Signal)
  | send (key : Key) (channel : Channel) (data : Bytes)
  | remove (key : Key)

inductive ConnectionEvent where
  | ready (addr : Option SocketAddr)
  | rtt (rtt : Duration)
  | message (channel : Channel) (data : Bytes)
  | failed
  deriving DecidableEq, Repr

end Nethernet
