import Mathlib.Data.List.Basic

/-! The protocol error type and the codes carried by CONNECTERROR signals. -/

set_option autoImplicit false

namespace Nethernet

abbrev Bytes := List UInt8

inductive IoErrorKind where
  | unexpectedEof
  deriving DecidableEq, Repr

inductive ProtocolError where
  | io (kind : IoErrorKind)
  | messageParse (text : String)
  | messageSizeExceeded (size : Nat)
  | crypto (text : String)
  | other (text : String)
  deriving DecidableEq, Repr

/-- Codes carried by CONNECTERROR signals, in the order of their wire numbers. -/
inductive SignalErrorCode where
  | none
  | destinationNotLoggedIn
  | negotiationTimeout
  | wrongTransportVersion
  | failedToCreatePeerConnection
  | ice
  | connectRequest
  | connectResponse
  | candidateAdd
  | inactivityTimeout
  | failedToCreateOffer
  | failedToCreateAnswer
  | failedToSetLocalDescription
  | failedToSetRemoteDescription
  | negotiationTimeoutWaitingForResponse
  | negotiationTimeoutWaitingForAccept
  | incomingConnectionIgnored
  | signalingParsingFailure
  | signalingUnknownError
  | signalingUnicastMessageDeliveryFailed
  | signalingBroadcastDeliveryFailed
  | signalingMessageDeliveryFailed
  | signalingTurnAuthFailed
  | signalingFallbackToBestEffortDelivery
  | noSignalingChannel
  | notLoggedIn
  | signalingFailedToSend
  deriving DecidableEq, Repr

namespace SignalErrorCode

/-- Every code in wire order: the discriminants of the source enum are `0 ..= 26`. -/
def all : List SignalErrorCode :=
  [none, destinationNotLoggedIn, negotiationTimeout, wrongTransportVersion,
    failedToCreatePeerConnection, ice, connectRequest, connectResponse, candidateAdd,
    inactivityTimeout, failedToCreateOffer, failedToCreateAnswer, failedToSetLocalDescription,
    failedToSetRemoteDescription, negotiationTimeoutWaitingForResponse,
    negotiationTimeoutWaitingForAccept, incomingConnectionIgnored, signalingParsingFailure,
    signalingUnknownError, signalingUnicastMessageDeliveryFailed,
    signalingBroadcastDeliveryFailed, signalingMessageDeliveryFailed, signalingTurnAuthFailed,
    signalingFallbackToBestEffortDelivery, noSignalingChannel, notLoggedIn, signalingFailedToSend]

/-- The `as u32` cast. -/
def toU32 (code : SignalErrorCode) : Nat := all.idxOf code

/-- `From<u32>`: a number outside the table reads as `SignalingUnknownError`. -/
def ofU32 (code : Nat) : SignalErrorCode := all.getD code signalingUnknownError

end SignalErrorCode

end Nethernet
