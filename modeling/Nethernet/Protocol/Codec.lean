import Nethernet.Error
import Nethernet.Foundation.Leb128
import Nethernet.Foundation.Outcome
import Nethernet.Foundation.Reader
import Nethernet.Foundation.Utf8
import Nethernet.Foundation.Zigzag

/-! Little-endian and length-prefixed primitives for discovery packets.

Writing to a growing buffer does not fail on its own, so a writer returns its
bytes, and an error only where the source checks a length. -/

set_option autoImplicit false

namespace Nethernet
open Foundation

abbrev ByteReader := Reader ProtocolError

variable (value : UInt32) (byte : UInt8) {data : Bytes}

namespace Codec

/-- Cap on any u32-length-prefixed field read or written by the codec. -/
def maxBytes : Nat := 65535

def eof : ProtocolError := .io .unexpectedEof

def readU8 : ByteReader UInt8 := Reader.readByte eof
def readU16 : ByteReader UInt16 := UInt16.ofNat <$> Reader.readLittleEndian eof 2
def readU32 : ByteReader UInt32 := UInt32.ofNat <$> Reader.readLittleEndian eof 4
def readU64 : ByteReader UInt64 := UInt64.ofNat <$> Reader.readLittleEndian eof 8
def readI32 : ByteReader Int32 := UInt32.toInt32 <$> readU32

def writeU16 (value : UInt16) : Bytes := Reader.littleEndian 2 value.toNat
def writeU32 (value : UInt32) : Bytes := Reader.littleEndian 4 value.toNat
def writeU64 (value : UInt64) : Bytes := Reader.littleEndian 8 value.toNat

/-! ## Length-prefixed bytes -/

def readLenBytes (len : Nat) : ByteReader Bytes :=
  if len > maxBytes then Reader.fail (.messageSizeExceeded len) else Reader.takeExact eof len

def readBytesU8 : ByteReader Bytes := do
  let len ← readU8
  readLenBytes len.toNat

def writeBytesU8 (data : Bytes) : Except ProtocolError Bytes :=
  if data.length ≤ 255 then .ok (UInt8.ofNat data.length :: data)
  else .error (.other ("data length " ++ toString data.length ++
    " exceeds the 255-byte maximum for a u8-prefixed field"))

def readBytesU32 : ByteReader Bytes := do
  let len ← readU32
  readLenBytes len.toNat

def writeBytesU32 (data : Bytes) : Except ProtocolError Bytes :=
  if data.length > maxBytes then
    .error (.other ("data length " ++ toString data.length ++ " exceeds maximum allowed " ++ toString maxBytes))
  else .ok (writeU32 (UInt32.ofNat data.length) ++ data)

/-! ## Variable-length integers -/

-- the shifts of `(0..35).step_by(7)`; a shift of 28 drops the bits above the 32nd
def readVaruint32Loop : List UInt32 → UInt32 → ByteReader UInt32
  | [], _ => Reader.fail (.other "varuint32 did not terminate after 5 bytes")
  | shift :: shifts, value => do
    let byte ← readU8
    let value := value ||| ((byte &&& 0x7f).toUInt32 <<< shift)
    if byte &&& 0x80 = 0 then return value else readVaruint32Loop shifts value

def readVaruint32 : ByteReader UInt32 := readVaruint32Loop [0, 7, 14, 21, 28] 0

theorem shiftRight_seven_lt {value : UInt32} (large : 0x80 ≤ value) : (value >>> 7).toNat < value.toNat := by
  have bound : 128 ≤ value.toNat := UInt32.le_iff_toNat_le.mp large
  rw [UInt32.toNat_shiftRight, Nat.shiftRight_eq_div_pow]
  exact Nat.div_lt_self (by omega) (by decide)

def writeVaruint32 (value : UInt32) : Bytes :=
  if 0x80 ≤ value then (value.toUInt8 ||| 0x80) :: writeVaruint32 (value >>> 7) else [value.toUInt8]
termination_by value.toNat
decreasing_by exact shiftRight_seven_lt (by assumption)

/-- Reads a zigzag-encoded varint. -/
def readVarint32 : ByteReader Int32 := do
  let raw ← readVaruint32
  return (raw >>> 1).toInt32 ^^^ (-(raw &&& 1).toInt32)

def writeVarint32 (value : Int32) : Bytes := writeVaruint32 ((value <<< 1) ^^^ (value >>> 31)).toUInt32

def readBytesVaruint : ByteReader Bytes := do
  let len ← readVaruint32
  readLenBytes len.toNat

-- the length is cast to u32, so a longer field gets a truncated prefix
def writeBytesVaruint (data : Bytes) : Bytes := writeVaruint32 (UInt32.ofNat data.length) ++ data

/-! ## What the readers read back -/

open Reader (Reads)

theorem reads_readU8 : Reads readU8 [byte] byte := by
  intro rest
  rfl

theorem reads_readU16 (value : UInt16) : Reads readU16 (writeU16 value) value := by
  have fits : value.toNat < 256 ^ 2 := value.toNat_lt
  have reads := (Reader.reads_readLittleEndian eof fits).map UInt16.ofNat
  rwa [UInt16.ofNat_toNat] at reads

theorem reads_readU32 : Reads readU32 (writeU32 value) value := by
  have fits : value.toNat < 256 ^ 4 := value.toNat_lt
  have reads := (Reader.reads_readLittleEndian eof fits).map UInt32.ofNat
  rwa [UInt32.ofNat_toNat] at reads

theorem reads_readU64 (value : UInt64) : Reads readU64 (writeU64 value) value := by
  have fits : value.toNat < 256 ^ 8 := value.toNat_lt
  have reads := (Reader.reads_readLittleEndian eof fits).map UInt64.ofNat
  rwa [UInt64.ofNat_toNat] at reads

theorem reads_readLenBytes (fits : data.length ≤ maxBytes) : Reads (readLenBytes data.length) data data := by
  unfold readLenBytes
  rw [if_neg (Nat.not_lt.mpr fits)]
  exact Reader.reads_takeExact eof data

theorem reads_readBytesU8 {written : Bytes} (wrote : writeBytesU8 data = .ok written) :
    Reads readBytesU8 written data := by
  unfold writeBytesU8 at wrote
  split at wrote
  · rename_i fits
    cases wrote
    have small : data.length < 2 ^ 8 := Nat.lt_succ_of_le fits
    have reads := reads_readLenBytes (Nat.le_trans fits (by decide))
    apply (reads_readU8 (UInt8.ofNat data.length)).bind
    rwa [UInt8.toNat_ofNat_of_lt' small]
  · cases wrote

theorem reads_readBytesU32 {written : Bytes} (wrote : writeBytesU32 data = .ok written) :
    Reads readBytesU32 written data := by
  obtain ⟨fits, built⟩ := Except.ite_error_eq_ok.mp wrote
  cases built
  have small : data.length < 2 ^ 32 := by
    unfold maxBytes at fits
    omega
  have reads := reads_readLenBytes (Nat.not_lt.mp fits)
  apply (reads_readU32 (UInt32.ofNat data.length)).bind
  rwa [UInt32.toNat_ofNat_of_lt' small]

/-! ## Seven bits to a byte -/

theorem toNat_low : (byte &&& 0x7f).toNat = byte.toNat % 128 := by
  have mask : (0x7f : UInt8).toNat = 2 ^ 7 - 1 := rfl
  rw [UInt8.toNat_and, mask, Nat.and_two_pow_sub_one_eq_mod]

theorem flag_eq_zero : byte &&& 0x80 = 0 ↔ byte.toNat < 128 := by
  have all : ∀ byte : Fin 256, byte.val &&& 128 = 0 ↔ byte.val < 128 := by decide +kernel
  rw [← UInt8.toNat_inj, UInt8.toNat_and]
  exact all ⟨byte.toNat, byte.toNat_lt⟩

-- the low seven bits below the bits that follow
theorem low_or_shifted (rest : Nat) :
    (byte &&& 0x7f).toUInt32 ||| UInt32.ofNat rest <<< 7 = UInt32.ofNat (byte.toNat % 128 + 128 * rest) := by
  have count : (7 : UInt32).toNat % 32 = 7 := rfl
  have high : (UInt32.ofNat rest <<< 7).toNat = 2 ^ 7 * (rest % 2 ^ 25) := by
    rw [UInt32.toNat_shiftLeft, count, UInt32.toNat_ofNat', Nat.shiftLeft_eq]
    omega
  apply UInt32.toNat_inj.mp
  rw [UInt32.toNat_or, UInt8.toNat_toUInt32, toNat_low, high, UInt32.toNat_ofNat', Nat.or_comm,
    ← Nat.two_pow_add_eq_or_of_lt (Nat.mod_lt byte.toNat (by decide : 0 < 2 ^ 7))]
  omega

theorem ofNat_value_single : UInt32.ofNat (Leb128.value [byte]) = (byte &&& 0x7f).toUInt32 := by
  have low := low_or_shifted byte 0
  simpa using low.symm

theorem shiftLeft_seven {shift : Nat} (room : shift + 7 < 32) :
    value <<< UInt32.ofNat (shift + 7) = value <<< 7 <<< UInt32.ofNat shift := by
  have amount : UInt32.ofNat (shift + 7) = 7 + UInt32.ofNat shift := by
    rw [Nat.add_comm]
    exact UInt32.ofNat_add 7 shift
  have place : (UInt32.ofNat shift).toNat = shift :=
    UInt32.toNat_ofNat_of_lt' (by simp only [UInt32.size]; omega)
  have inside : UInt32.ofNat shift < 32 := by
    rw [UInt32.lt_iff_toNat_lt, place]
    exact Nat.lt_of_le_of_lt (Nat.le_add_right shift 7) room
  have both : 7 + UInt32.ofNat shift < 32 := by
    rw [← amount, UInt32.lt_iff_toNat_lt, UInt32.toNat_ofNat_of_lt' (by simp only [UInt32.size]; omega)]
    exact room
  rw [amount, UInt32.shiftLeft_add (by decide) inside both]

theorem readVaruint32Loop_cons (shift : UInt32) (shifts : List UInt32) (sum : UInt32) (byte : UInt8) (bytes : Bytes) :
    readVaruint32Loop (shift :: shifts) sum (byte :: bytes) =
      if byte &&& 0x80 = 0 then .ok (sum ||| (byte &&& 0x7f).toUInt32 <<< shift, bytes)
      else readVaruint32Loop shifts (sum ||| (byte &&& 0x7f).toUInt32 <<< shift) bytes := by
  change (if byte &&& 0x80 = 0 then pure _ else readVaruint32Loop shifts _ : ByteReader UInt32) bytes = _
  split <;> rfl

/-- The loop takes the number at the front of the stream if it has a shift for each of its bytes, and
adds it at the first of them. What is shifted out of the 32 bits is lost. -/
theorem readVaruint32Loop_eq_ok {count shift : Nat} (room : shift + 7 * count ≤ 35) {sum value : UInt32} {bytes rest : Bytes} :
    readVaruint32Loop ((List.range' shift count 7).map UInt32.ofNat) sum bytes = .ok (value, rest) ↔
      ∃ taken, bytes = taken ++ rest ∧ Leb128.Number taken ∧ taken.length ≤ count ∧
        value = sum ||| UInt32.ofNat (Leb128.value taken) <<< UInt32.ofNat shift := by
  induction count generalizing shift sum bytes with
  | zero =>
    constructor
    · intro failed
      cases failed
    · rintro ⟨taken, -, number, short, -⟩
      exact absurd number.length_pos (Nat.not_lt.mpr short)
  | succ count ih =>
    rw [List.range'_succ, List.map_cons]
    cases bytes with
    | nil =>
      constructor
      · intro failed
        cases failed
      · rintro ⟨taken, empty, number, -⟩
        rw [(List.nil_eq_append_iff.mp empty).1] at number
        cases number
    | cons byte bytes =>
      rw [readVaruint32Loop_cons]
      by_cases flag : byte &&& 0x80 = 0
      · rw [if_pos flag, Leb128.front_of_lt ((flag_eq_zero byte).mp flag), ofNat_value_single, Except.ok.injEq,
          Prod.mk.injEq, and_comm, List.length_singleton]
        simp only [Nat.le_add_left, true_and, eq_comm]
      · have continues : 128 ≤ byte.toNat := Nat.not_lt.mp fun small => flag ((flag_eq_zero byte).mpr small)
        rw [if_neg flag, Leb128.front_of_ge continues, ih (by omega)]
        apply exists_congr
        intro taken
        apply and_congr_right
        intro _
        apply and_congr_right
        intro number
        rw [List.length_cons, Nat.add_le_add_iff_right]
        apply and_congr_right
        intro short
        -- only here, where a byte follows, is there a shift left for it
        have more := number.length_pos
        rw [shiftLeft_seven _ (by omega), UInt32.or_assoc, ← UInt32.shiftLeft_or, low_or_shifted, Leb128.value_cons]

theorem readVaruint32_eq_ok {value : UInt32} {bytes rest : Bytes} :
    readVaruint32 bytes = .ok (value, rest) ↔
      ∃ taken, bytes = taken ++ rest ∧ Leb128.Number taken ∧ taken.length ≤ 5 ∧
        value = UInt32.ofNat (Leb128.value taken) := by
  have start (number : Nat) : 0 ||| UInt32.ofNat number <<< UInt32.ofNat 0 = UInt32.ofNat number := by simp
  have loop : readVaruint32 bytes = .ok (value, rest) ↔ _ := readVaruint32Loop_eq_ok (by decide : 0 + 7 * 5 ≤ 35)
  simp only [start] at loop
  exact loop

/-! ## What the writer writes -/

theorem toNat_high : (value >>> 7).toNat = value.toNat / 128 := by
  have count : (7 : UInt32).toNat % 32 = 7 := rfl
  rw [UInt32.toNat_shiftRight, count, Nat.shiftRight_eq_div_pow]

theorem toNat_flagged : (value.toUInt8 ||| 0x80).toNat = 128 + value.toNat % 128 := by
  have all : ∀ byte : Fin 256, byte.val ||| 128 = 128 + byte.val % 128 := by decide +kernel
  have byte := all ⟨value.toUInt8.toNat, value.toUInt8.toNat_lt⟩
  rw [UInt8.toNat_or]
  refine Eq.trans byte ?_
  dsimp only
  rw [UInt32.toNat_toUInt8]
  omega

theorem toNat_lt_of_small {value : UInt32} (small : ¬ 0x80 ≤ value) : value.toNat < 128 :=
  Nat.not_le.mp fun large => small (UInt32.le_iff_toNat_le.mpr large)

theorem number_writeVaruint32 : Leb128.Number (writeVaruint32 value) := by
  induction value using writeVaruint32.induct with
  | case1 value large ih =>
    rw [writeVaruint32, if_pos large]
    exact .more (by rw [toNat_flagged]; exact Nat.le_add_right _ _) ih
  | case2 value small =>
    have bound := toNat_lt_of_small small
    rw [writeVaruint32, if_neg small]
    exact .last (by rw [UInt32.toNat_toUInt8]; omega)

theorem value_writeVaruint32 : Leb128.value (writeVaruint32 value) = value.toNat := by
  induction value using writeVaruint32.induct with
  | case1 value large ih =>
    rw [writeVaruint32, if_pos large, Leb128.value_cons, ih, toNat_flagged, toNat_high]
    omega
  | case2 value small =>
    have bound := toNat_lt_of_small small
    rw [writeVaruint32, if_neg small, Leb128.value_cons, Leb128.value_nil, UInt32.toNat_toUInt8]
    omega

theorem length_writeVaruint32 {count : Nat} {value : UInt32} (fits : value.toNat < 128 ^ (count + 1)) :
    (writeVaruint32 value).length ≤ count + 1 := by
  induction count generalizing value with
  | zero =>
    rw [writeVaruint32, if_neg]
    · exact Nat.le_refl 1
    · exact fun large => absurd (UInt32.le_iff_toNat_le.mp large) (Nat.not_le.mpr fits)
  | succ count ih =>
    rw [writeVaruint32]
    split
    · have rest : (value >>> 7).toNat < 128 ^ (count + 1) := by
        rw [toNat_high]
        apply Nat.div_lt_of_lt_mul
        rwa [Nat.pow_succ, Nat.mul_comm] at fits
      exact Nat.succ_le_succ (ih rest)
    · exact Nat.succ_le_succ (Nat.zero_le _)

theorem reads_readVaruint32 : Reads readVaruint32 (writeVaruint32 value) value := by
  intro rest
  have fits : value.toNat < 128 ^ (4 + 1) := Nat.lt_trans value.toNat_lt (by decide)
  refine readVaruint32_eq_ok.mpr ⟨_, rfl, number_writeVaruint32 value, length_writeVaruint32 fits, ?_⟩
  rw [value_writeVaruint32, UInt32.ofNat_toNat]

theorem reads_readVarint32 (value : Int32) : Reads readVarint32 (writeVarint32 value) value := by
  have inverse : (((value <<< 1) ^^^ (value >>> 31)).toUInt32 >>> 1).toInt32 ^^^
      (-(((value <<< 1) ^^^ (value >>> 31)).toUInt32 &&& 1).toInt32) = value := by
    apply Int32.toBitVec_inj.mp
    exact unzigzag_zigzag value.toBitVec
  rw [← List.append_nil (writeVarint32 value)]
  apply (reads_readVaruint32 ((value <<< 1) ^^^ (value >>> 31)).toUInt32).bind
  rw [inverse]
  exact .pure value

theorem reads_readBytesVaruint (fits : data.length ≤ maxBytes) :
    Reads readBytesVaruint (writeBytesVaruint data) data := by
  have small : data.length < 2 ^ 32 := Nat.lt_of_le_of_lt fits (by decide)
  have reads := reads_readLenBytes fits
  apply (reads_readVaruint32 (UInt32.ofNat data.length)).bind
  rwa [UInt32.toNat_ofNat_of_lt' small]

/-! ## What the readers look at -/

open Reader (Local)

theorem local_readU8 : Local readU8 := Reader.local_readByte eof

theorem local_readI32 : Local readI32 :=
  ((Reader.local_readLittleEndian eof 4).map UInt32.ofNat).map UInt32.toInt32

theorem local_readLenBytes (len : Nat) : Local (readLenBytes len) := by
  unfold readLenBytes
  split
  · exact .fail _
  · exact Reader.local_takeExact eof len

theorem local_readBytesU8 : Local readBytesU8 := local_readU8.bind fun len => local_readLenBytes len.toNat

theorem local_readVaruint32 : Local readVaruint32 := by
  intro bytes value rest read
  obtain ⟨taken, same, number, short, sum⟩ := readVaruint32_eq_ok.mp read
  exact ⟨taken, same, fun after => readVaruint32_eq_ok.mpr ⟨taken, rfl, number, short, sum⟩⟩

theorem local_readVarint32 : Local readVarint32 := local_readVaruint32.bind fun _ => .pure _

theorem local_readBytesVaruint : Local readBytesVaruint :=
  local_readVaruint32.bind fun len => local_readLenBytes len.toNat

end Codec

end Nethernet
