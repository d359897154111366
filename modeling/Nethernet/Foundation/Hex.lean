import Mathlib.Data.List.Basic

/-! Hexadecimal text as bytes: lower-case encoding and a decoder of either case. -/

set_option autoImplicit false

namespace Nethernet.Foundation.Hex

inductive HexError where
  | invalidHexCharacter (byte : UInt8) (index : Nat)
  | oddLength
  deriving DecidableEq, Repr

-- a Latin-1 character in a debug rendering
def charDebug (byte : UInt8) : String :=
  let body :=
    if byte = 0 then "\\0"
    else if byte = 9 then "\\t"
    else if byte = 10 then "\\n"
    else if byte = 13 then "\\r"
    else if byte = 39 then "\\'"
    else if byte = 92 then "\\\\"
    else if byte < 0x20 || (0x7f ≤ byte && byte ≤ 0x9f) || byte = 0xad then
      "\\u\x7b" ++ String.ofList (Nat.toDigits 16 byte.toNat) ++ "\x7d"
    else String.singleton (Char.ofNat byte.toNat)
  "'" ++ body ++ "'"

def HexError.text : HexError → String
  | .invalidHexCharacter byte index =>
    "Invalid character " ++ charDebug byte ++ " at position " ++ toString index
  | .oddLength => "Odd number of digits"

def digit (value : Nat) : UInt8 :=
  if value < 10 then UInt8.ofNat (0x30 + value) else UInt8.ofNat (0x57 + value)

def digitValue (byte : UInt8) (index : Nat) : Except HexError Nat :=
  if 0x30 ≤ byte ∧ byte ≤ 0x39 then .ok (byte.toNat - 0x30)
  else if 0x61 ≤ byte ∧ byte ≤ 0x66 then .ok (byte.toNat - 0x57)
  else if 0x41 ≤ byte ∧ byte ≤ 0x46 then .ok (byte.toNat - 0x37)
  else .error (.invalidHexCharacter byte index)

def encode (data : List UInt8) : List UInt8 :=
  data.flatMap fun byte => [digit (byte.toNat / 16), digit (byte.toNat % 16)]

def decodePairs (index : Nat) : List UInt8 → Except HexError (List UInt8)
  | high :: low :: rest => do
    let top ← digitValue high index
    let bottom ← digitValue low (index + 1)
    let bytes ← decodePairs (index + 2) rest
    return UInt8.ofNat (16 * top + bottom) :: bytes
  | _ => .ok []

def decode (data : List UInt8) : Except HexError (List UInt8) :=
  if data.length % 2 ≠ 0 then .error .oddLength else decodePairs 0 data

def isDigit (byte : UInt8) : Bool := (digitValue byte 0).isOk

/-- The number that hexadecimal digits denote, the most significant one first. -/
def number (digits : List UInt8) : Nat :=
  digits.foldl (fun value byte => 16 * value + (digitValue byte 0).toOption.getD 0) 0

theorem digitValue_digit (index : Nat) {value : Nat} (bound : value < 16) :
    digitValue (digit value) index = .ok value := by
  have all : ∀ value < 16, (0x30 ≤ digit value ∧ digit value ≤ 0x39 ∧ (digit value).toNat - 0x30 = value) ∨
      (¬ (0x30 ≤ digit value ∧ digit value ≤ 0x39) ∧ 0x61 ≤ digit value ∧ digit value ≤ 0x66 ∧
        (digit value).toNat - 0x57 = value) := by decide
  unfold digitValue
  rcases all value bound with ⟨lower, upper, same⟩ | ⟨other, lower, upper, same⟩
  · rw [if_pos ⟨lower, upper⟩, same]
  · rw [if_neg other, if_pos ⟨lower, upper⟩, same]

theorem length_encode (data : List UInt8) : (encode data).length = 2 * data.length := by
  induction data with
  | nil => rfl
  | cons byte rest ih =>
    rw [encode, List.flatMap_cons, List.length_append, ← encode, ih, List.length_cons]
    simp only [List.length_cons, List.length_nil]
    omega

theorem encode_append (first rest : List UInt8) : encode (first ++ rest) = encode first ++ encode rest :=
  List.flatMap_append

theorem encode_flatten (pieces : List (List UInt8)) : pieces.flatMap encode = encode pieces.flatten := by
  induction pieces with
  | nil => rfl
  | cons piece rest ih => rw [List.flatMap_cons, ih, List.flatten_cons, encode_append]

theorem decodePairs_encode (index : Nat) (data : List UInt8) : decodePairs index (encode data) = .ok data := by
  induction data generalizing index with
  | nil => rfl
  | cons byte rest ih =>
    have bound := byte.toNat_lt
    have high := digitValue_digit index (show byte.toNat / 16 < 16 by omega)
    have low := digitValue_digit (index + 1) (show byte.toNat % 16 < 16 by omega)
    have whole : UInt8.ofNat (16 * (byte.toNat / 16) + byte.toNat % 16) = byte := by
      rw [Nat.div_add_mod, UInt8.ofNat_toNat]
    have shape : encode (byte :: rest) =
        digit (byte.toNat / 16) :: digit (byte.toNat % 16) :: encode rest := rfl
    rw [shape, decodePairs, high, low, ih]
    simp only [bind, Except.bind, pure, Except.pure, whole]

theorem decode_encode (data : List UInt8) : decode (encode data) = .ok data := by
  rw [decode, length_encode, Nat.mul_mod_right, if_neg (by decide), decodePairs_encode]

end Nethernet.Foundation.Hex
