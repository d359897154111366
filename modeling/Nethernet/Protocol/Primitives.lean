import Nethernet.Protocol.Codec

/-! What the primitives of the codec read: numbers of at most five bytes, and fields behind
their length. -/

set_option autoImplicit false

namespace Nethernet.Codec
open Foundation

/-! ## Varuints -/

/-- The stream is read as the number it starts with, and refused if that number has more than 32 bits. -/
structure ReadsExactly (bytes : Bytes) : Prop where
  accepts : ∀ value rest, readVaruint32 bytes = .ok (value, rest) ↔
    ∃ taken, bytes = taken ++ rest ∧ Leb128.Number taken ∧ taken.length ≤ 5 ∧ Leb128.value taken < 2 ^ 32 ∧
      value.toNat = Leb128.value taken
  refuses : ∀ taken rest, bytes = taken ++ rest → Leb128.Number taken → 2 ^ 32 ≤ Leb128.value taken →
    ∃ error, readVaruint32 bytes = .error error

-- four bytes that continue, and a fifth that ends the number with more than the four bits there is room for
def Overflows : Bytes → Prop
  | first :: second :: third :: fourth :: last :: _ =>
    128 ≤ first.toNat ∧ 128 ≤ second.toNat ∧ 128 ≤ third.toNat ∧ 128 ≤ fourth.toNat ∧
      16 ≤ last.toNat ∧ last.toNat < 128
  | _ => False

instance decidableOverflows : (bytes : Bytes) → Decidable (Overflows bytes)
  | _ :: _ :: _ :: _ :: _ :: _ => inferInstanceAs (Decidable (_ ∧ _))
  | [] => .isFalse id
  | [_] => .isFalse id
  | [_, _] => .isFalse id
  | [_, _, _] => .isFalse id
  | [_, _, _, _] => .isFalse id

theorem Overflows.number {bytes : Bytes} (overflows : Overflows bytes) : ∃ taken rest, bytes = taken ++ rest ∧
    Leb128.Number taken ∧ taken.length ≤ 5 ∧ 2 ^ 32 ≤ Leb128.value taken := by
  match bytes, overflows with
  | first :: second :: third :: fourth :: last :: rest, ⟨one, two, three, four, large, ends⟩ =>
    refine ⟨[first, second, third, fourth, last], rest, rfl, ?_, Nat.le_refl 5, ?_⟩
    · exact .more one (.more two (.more three (.more four (.last ends))))
    · simp only [Leb128.value_cons, Leb128.value_nil]
      omega

/-- Up to five bytes have too large a value only if the fifth has. -/
theorem overflows_of_value {taken : Bytes} (number : Leb128.Number taken) (short : taken.length ≤ 5)
    (large : 2 ^ 32 ≤ Leb128.value taken) (rest : Bytes) : Overflows (taken ++ rest) := by
  have full : taken.length = 5 := by
    by_contra fewer
    have bound := Leb128.value_lt taken
    have power : 128 ^ taken.length ≤ 128 ^ 4 := Nat.pow_le_pow_right (by decide) (by omega)
    omega
  match taken, full, number with
  | [first, second, third, fourth, last], _,
      .more one (.more two (.more three (.more four (.last ends)))) =>
    simp only [Leb128.value_cons, Leb128.value_nil] at large
    exact ⟨one, two, three, four, by omega, ends⟩

theorem readVaruint32_refuses {taken rest : Bytes} (number : Leb128.Number taken) (long : 5 < taken.length) :
    ∃ error, readVaruint32 (taken ++ rest) = .error error := by
  cases read : readVaruint32 (taken ++ rest) with
  | error error => exact ⟨error, rfl⟩
  | ok result =>
    obtain ⟨other, same, first, short, -⟩ := readVaruint32_eq_ok.mp read
    rw [number.eq_of_append first same] at long
    exact absurd short (Nat.not_le.mpr long)

/-- Numbers are read exactly unless the fifth byte has bits above the 32nd. -/
theorem varuint_exact_iff (bytes : Bytes) : ReadsExactly bytes ↔ ¬ Overflows bytes := by
  constructor
  · intro exactly overflows
    obtain ⟨taken, rest, same, number, short, large⟩ := overflows.number
    obtain ⟨error, refused⟩ := exactly.refuses taken rest same number large
    rw [readVaruint32_eq_ok.mpr ⟨taken, same, number, short, rfl⟩] at refused
    cases refused
  · intro fits
    have small {taken rest : Bytes} (same : bytes = taken ++ rest) (number : Leb128.Number taken)
        (short : taken.length ≤ 5) : Leb128.value taken < 2 ^ 32 := by
      by_contra large
      rw [same] at fits
      exact fits (overflows_of_value number short (Nat.not_lt.mp large) rest)
    constructor
    · intro value rest
      rw [readVaruint32_eq_ok]
      constructor
      · rintro ⟨taken, same, number, short, rfl⟩
        have bound := small same number short
        exact ⟨taken, same, number, short, bound, UInt32.toNat_ofNat_of_lt' bound⟩
      · rintro ⟨taken, same, number, short, bound, equal⟩
        refine ⟨taken, same, number, short, ?_⟩
        rw [← equal, UInt32.ofNat_toNat]
    · intro taken rest same number large
      by_cases short : taken.length ≤ 5
      · exact absurd (small same number short) (Nat.not_lt.mpr large)
      · rw [same]
        exact readVaruint32_refuses number (Nat.not_le.mp short)

/-- Two to the 32nd is read as zero. -/
theorem overflowing_varuint_truncated :
    let bytes : Bytes := [0x80, 0x80, 0x80, 0x80, 0x10]
    Leb128.value bytes = 2 ^ 32 ∧ readVaruint32 bytes = .ok (0, []) ∧ ¬ ReadsExactly bytes := by
  have number : Leb128.Number [0x80, 0x80, 0x80, 0x80, 0x10] := by decide
  have value : Leb128.value [0x80, 0x80, 0x80, 0x80, 0x10] = 2 ^ 32 := by decide
  have read : readVaruint32 [0x80, 0x80, 0x80, 0x80, 0x10] = .ok (0, []) := by rfl
  refine ⟨value, read, ?_⟩
  intro exactly
  obtain ⟨error, refused⟩ := exactly.refuses _ [] rfl number (Nat.le_of_eq value.symm)
  rw [read] at refused
  cases refused

/-! ## Length-prefixed fields -/

open Reader (Reads)

inductive LengthPrefix where
  | u8
  | u32
  | varuint
  deriving DecidableEq, Repr

namespace LengthPrefix

def write : LengthPrefix → Bytes → Except ProtocolError Bytes
  | .u8, data => writeBytesU8 data
  | .u32, data => writeBytesU32 data
  | .varuint, data => .ok (writeBytesVaruint data)

def read : LengthPrefix → ByteReader Bytes
  | .u8 => readBytesU8
  | .u32 => readBytesU32
  | .varuint => readBytesVaruint

end LengthPrefix

theorem readLenBytes_append (count : Nat) (data rest : Bytes) :
    readLenBytes count (data ++ rest) = .ok (data, rest) ↔ count = data.length ∧ data.length ≤ maxBytes := by
  constructor
  · intro read
    unfold readLenBytes at read
    split at read
    · cases read
    · rename_i fits
      unfold Reader.takeExact at read
      split at read
      · rename_i enough
        have taken := congrArg List.length (congrArg Prod.fst (Except.ok.inj read))
        rw [List.length_take_of_le enough] at taken
        exact ⟨taken, taken ▸ Nat.not_lt.mp fits⟩
      · cases read
  · rintro ⟨rfl, fits⟩
    exact reads_readLenBytes fits rest

theorem readBytesVaruint_write (data rest : Bytes) : readBytesVaruint (writeBytesVaruint data ++ rest) =
    readLenBytes (UInt32.ofNat data.length).toNat (data ++ rest) := by
  change (readVaruint32 (writeBytesVaruint data ++ rest) >>= fun pair => readLenBytes pair.1.toNat pair.2) = _
  rw [writeBytesVaruint, List.append_assoc, reads_readVaruint32]
  rfl

/-- Behind a varuint a field above the limit is written, and refused or cut short when it is read. -/
theorem read_varuint_iff (data rest : Bytes) :
    readBytesVaruint (writeBytesVaruint data ++ rest) = .ok (data, rest) ↔ data.length ≤ maxBytes := by
  rw [readBytesVaruint_write, readLenBytes_append]
  constructor
  · intro back
    exact back.2
  · intro fits
    exact ⟨UInt32.toNat_ofNat_of_lt' (Nat.lt_of_le_of_lt fits (by decide)), fits⟩

/-- Fields read back in all three forms, except behind a varuint if they are longer than the reader takes. -/
theorem prefixed_read_back_iff (form : LengthPrefix) (data rest : Bytes) :
    (∀ written, form.write data = .ok written → form.read (written ++ rest) = .ok (data, rest)) ↔
      (form = .varuint → data.length ≤ maxBytes) := by
  cases form with
  | u8 =>
    constructor
    · intro _ same
      cases same
    · intro _ written wrote
      exact reads_readBytesU8 wrote rest
  | u32 =>
    constructor
    · intro _ same
      cases same
    · intro _ written wrote
      exact reads_readBytesU32 wrote rest
  | varuint =>
    constructor
    · intro back _
      exact (read_varuint_iff data rest).mp (back _ rfl)
    · intro fits written wrote
      cases wrote
      exact (read_varuint_iff data rest).mpr (fits rfl)

/-- A field of 65536 bytes is written behind a varuint and refused when it is read. -/
theorem long_field_refused :
    let data : Bytes := List.replicate 65536 0
    LengthPrefix.varuint.write data = .ok ([0x80, 0x80, 0x04] ++ data) ∧
      LengthPrefix.varuint.read ([0x80, 0x80, 0x04] ++ data) = .error (.messageSizeExceeded 65536) := by
  intro data
  have length : UInt32.ofNat data.length = 65536 := by
    rw [List.length_replicate]
    rfl
  have front : writeVaruint32 65536 = [0x80, 0x80, 0x04] := by
    rw [writeVaruint32, if_pos (by decide), writeVaruint32, if_pos (by decide), writeVaruint32, if_neg (by decide)]
    rfl
  have wrote : writeBytesVaruint data = [0x80, 0x80, 0x04] ++ data := by
    rw [writeBytesVaruint, length, front]
  constructor
  · exact congrArg Except.ok wrote
  · have read := readBytesVaruint_write data []
    rw [wrote, length, List.append_nil, List.append_nil] at read
    exact read

end Nethernet.Codec
