import Mathlib.Algebra.Group.Nat.Defs
import Nethernet.Error
import Nethernet.Foundation.Outcome
import Nethernet.Foundation.Text

/-! Signaling messages in their `TYPE connection_id data` text form. -/

set_option autoImplicit false

namespace Nethernet
open Foundation

inductive SignalType where
  | offer
  | answer
  | candidate
  | error
  deriving DecidableEq, Repr

namespace SignalType

def asStr : SignalType → String
  | .offer => "CONNECTREQUEST"
  | .answer => "CONNECTRESPONSE"
  | .candidate => "CANDIDATEADD"
  | .error => "CONNECTERROR"

def fromStr (text : String) : Except ProtocolError SignalType :=
  if text = "CONNECTREQUEST" then .ok .offer
  else if text = "CONNECTRESPONSE" then .ok .answer
  else if text = "CANDIDATEADD" then .ok .candidate
  else if text = "CONNECTERROR" then .ok .error
  else .error (.other ("Unknown signal type: " ++ text))

theorem fromStr_asStr (kind : SignalType) : fromStr kind.asStr = .ok kind := by
  cases kind <;> decide

end SignalType

/-- A signaling message; `networkId` is the remote peer's id and is not part of the text form. -/
structure Signal where
  signalType : SignalType
  connectionId : UInt64
  data : String
  networkId : String
  deriving DecidableEq, Repr

variable (signal : Signal)

namespace Signal

def errorSignal (connectionId : UInt64) (code : SignalErrorCode) (networkId : String) : Signal :=
  ⟨.error, connectionId, toString code.toU32, networkId⟩

-- `str::parse::<u64>`
def parseU64 (text : List Char) : Except ParseIntError UInt64 :=
  (parseUnsigned (2 ^ 64) text).map UInt64.ofNat

theorem parseU64_repr (number : UInt64) : parseU64 (toString number.toNat).toList = .ok number := by
  have fits : number.toNat < 2 ^ 64 := number.toNat_lt
  have digits : (toString number.toNat).toList = number.toNat.repr.toList := rfl
  rw [parseU64, digits, parseUnsigned_repr fits]
  simp [Except.map]

/-- Parses `TYPE id data`, with `networkId` supplied by the caller. -/
def fromString (text : String) (networkId : String) : Except ProtocolError Signal :=
  match splitN ' ' 3 text.toList with
  | [kind, id, data] => do
    let signalType ← SignalType.fromStr (String.ofList kind)
    let connectionId ← (parseU64 id).mapError fun e =>
      ProtocolError.other ("Failed to parse connection ID: " ++ e.text)
    return ⟨signalType, connectionId, String.ofList data, networkId⟩
  | parts => .error (.other ("Invalid signal format: expected 3 parts, got " ++ toString parts.length))

-- `Display for Signal`
def text (signal : Signal) : String :=
  signal.signalType.asStr ++ " " ++ toString signal.connectionId.toNat ++ " " ++ signal.data

theorem text_toList : signal.text.toList = signal.signalType.asStr.toList ++
    ' ' :: ((toString signal.connectionId.toNat).toList ++ ' ' :: signal.data.toList) := by
  simp [text]

theorem blank_not_mem_asStr (kind : SignalType) : ' ' ∉ kind.asStr.toList := by
  cases kind <;> decide

theorem blank_not_mem_decimal (number : Nat) : ' ' ∉ (toString number).toList := not_mem_repr (by decide) number

/-- The text form carries everything but the network id, whatever the data is. -/
theorem fromString_text (networkId : String) :
    fromString signal.text networkId = .ok { signal with networkId := networkId } := by
  have parts : splitN ' ' 3 signal.text.toList = [signal.signalType.asStr.toList,
      (toString signal.connectionId.toNat).toList, signal.data.toList] := by
    rw [text_toList, splitN, splitOnce_append _ (blank_not_mem_asStr _)]
    simp only [splitN, splitOnce_append _ (blank_not_mem_decimal _)]
  unfold fromString
  rw [parts]
  simp only [String.ofList_toList, SignalType.fromStr_asStr, parseU64_repr]
  rfl

-- every text form starts with one of four capital letters words, so none is empty or a ping
theorem text_ne_of_short {short : String} (bound : short.toList.length < 12) : signal.text ≠ short := by
  intro same
  have long : 12 ≤ signal.signalType.asStr.toList.length := by
    cases signal.signalType <;> decide
  have length := congrArg (fun word : String => word.toList.length) same
  simp only [text_toList, List.length_append] at length
  omega

end Signal

end Nethernet
