import Mathlib.Data.List.Basic

/-! The UTF-8 bytes of a text and their checked decoding, with the error a
decoder reports at the first invalid sequence. -/

set_option autoImplicit false

namespace Nethernet.Foundation

def utf8 (text : String) : List UInt8 := text.toUTF8.data.toList

theorem utf8_eq_flatMap (text : String) : utf8 text = text.toList.flatMap String.utf8EncodeChar := by
  show text.toByteArray.data.toList = _
  rw [← String.utf8Encode_toList]
  simp [List.utf8Encode]

def isContinuation (byte : UInt8) : Bool := 0x80 ≤ byte && byte ≤ 0xbf

-- the second bytes allowed after each lead byte of a three- or four-byte sequence
def allowsSecond (lead second : UInt8) : Bool :=
  if lead = 0xe0 then 0xa0 ≤ second && second ≤ 0xbf
  else if lead = 0xed then 0x80 ≤ second && second ≤ 0x9f
  else if lead = 0xf0 then 0x90 ≤ second && second ≤ 0xbf
  else if lead = 0xf4 then 0x80 ≤ second && second ≤ 0x8f
  else isContinuation second

/-- Offset of the first invalid sequence and, unless the input ends inside it,
the number of its bytes. -/
def utf8Error (offset : Nat) : List UInt8 → Option (Nat × Option Nat)
  | [] => none
  | lead :: rest =>
    if lead < 0x80 then utf8Error (offset + 1) rest
    else if 0xc2 ≤ lead && lead ≤ 0xdf then
      match rest with
      | [] => some (offset, none)
      | second :: rest =>
        if isContinuation second then utf8Error (offset + 2) rest else some (offset, some 1)
    else if 0xe0 ≤ lead && lead ≤ 0xef then
      match rest with
      | [] => some (offset, none)
      | second :: rest =>
        if allowsSecond lead second then
          match rest with
          | [] => some (offset, none)
          | third :: rest =>
            if isContinuation third then utf8Error (offset + 3) rest else some (offset, some 2)
        else some (offset, some 1)
    else if 0xf0 ≤ lead && lead ≤ 0xf4 then
      match rest with
      | [] => some (offset, none)
      | second :: rest =>
        if allowsSecond lead second then
          match rest with
          | [] => some (offset, none)
          | third :: rest =>
            if isContinuation third then
              match rest with
              | [] => some (offset, none)
              | fourth :: rest =>
                if isContinuation fourth then utf8Error (offset + 4) rest else some (offset, some 3)
            else some (offset, some 2)
        else some (offset, some 1)
    else some (offset, some 1)

def utf8ErrorText (bytes : List UInt8) : String :=
  match utf8Error 0 bytes with
  | some (offset, some length) =>
    "invalid utf-8 sequence of " ++ toString length ++ " bytes from index " ++ toString offset
  | some (offset, none) => "incomplete utf-8 byte sequence from index " ++ toString offset
  | none => ""

def fromUtf8 (bytes : List UInt8) : Except String String :=
  match String.fromUTF8? ⟨bytes.toArray⟩ with
  | some text => .ok text
  | none => .error (utf8ErrorText bytes)

@[simp] theorem fromUtf8_utf8 (text : String) : fromUtf8 (utf8 text) = .ok text := by
  have same : (⟨(utf8 text).toArray⟩ : ByteArray) = text.toUTF8 := by simp [utf8]
  have valid : text.toUTF8.IsValidUTF8 := text.isValidUTF8
  rw [fromUtf8, same, String.fromUTF8?, dif_pos valid]
  rfl

end Nethernet.Foundation
