import Nethernet.Protocol.Discovery

/-! How long discovery datagrams get. The limit on a packet is checked before the length, the
padding and the checksum are added to it. -/

set_option autoImplicit false

namespace Nethernet
open Foundation Codec

-- the size of the buffers that the drivers receive into
def maxDatagramSize : Nat := 65535

namespace Packets

/-- The bytes of the body. -/
def size : Packets → Nat
  | .request => 0
  | .response packet => 4 + 2 * packet.applicationData.length
  | .message packet => 12 + (utf8 packet.data).length

-- the sizes left out are those that `encode` allows and makes too long by what it adds
def Fits : Packets → Prop
  | .request => True
  | .response packet => ¬ (32732 ≤ packet.applicationData.length ∧ packet.applicationData.length ≤ 32756)
  | .message packet => ¬ (65456 ≤ (utf8 packet.data).length ∧ (utf8 packet.data).length ≤ 65505)

instance decidableFits : (packet : Packets) → Decidable packet.Fits
  | .request => inferInstanceAs (Decidable True)
  | .response _ => inferInstanceAs (Decidable (¬ _))
  | .message _ => inferInstanceAs (Decidable (¬ _))

theorem fits_iff (packet : Packets) : packet.Fits ↔ ¬ (65468 ≤ packet.size ∧ packet.size ≤ 65517) := by
  cases packet with
  | request => simp [Fits, size]
  | response packet =>
    simp only [Fits, size]
    omega
  | message packet =>
    simp only [Fits, size]
    omega

end Packets

@[simp] theorem Codec.length_writeU16 (value : UInt16) : (writeU16 value).length = 2 := Reader.length_littleEndian 2 _

@[simp] theorem Codec.length_writeU32 (value : UInt32) : (writeU32 value).length = 4 := Reader.length_littleEndian 4 _

@[simp] theorem Codec.length_writeU64 (value : UInt64) : (writeU64 value).length = 8 := Reader.length_littleEndian 8 _

@[simp] theorem Header.length_serialize (header : Header) : header.serialize.length = 18 := by
  simp [serialize]

theorem ResponsePacket.length_serialize (packet : ResponsePacket) :
    packet.serialize.length = 4 + 2 * packet.applicationData.length := by
  rw [serialize, Hex.encode_flatten, flatten_chunksOf, List.length_append, Hex.length_encode, length_writeU32]

theorem MessagePacket.serialize_eq_ok {packet : MessagePacket} {body : Bytes} :
    packet.serialize = .ok body ↔ (utf8 packet.data).length ≤ maxBytes ∧
      body = writeU64 packet.recipientId ++ (writeU32 (UInt32.ofNat (utf8 packet.data).length) ++ utf8 packet.data) := by
  unfold serialize writeBytesU32
  rw [Except.bind_eq_ok]
  simp only [Except.ite_error_eq_ok, Nat.not_lt]
  constructor
  · intro written
    obtain ⟨data, ⟨fits, prefixed⟩, built⟩ := written
    cases prefixed
    cases built
    exact ⟨fits, rfl⟩
  · intro written
    exact ⟨_, ⟨written.1, rfl⟩, congrArg Except.ok written.2.symm⟩

variable {packet : Packets}

namespace Packets

theorem length_serialize {packet : Packets} {body : Bytes} (wrote : packet.serialize = .ok body) :
    body.length = packet.size := by
  cases packet with
  | request =>
    cases wrote
    rfl
  | response packet =>
    cases wrote
    exact packet.length_serialize
  | message packet =>
    rw [(MessagePacket.serialize_eq_ok.mp wrote).2]
    simp [size]
    omega

theorem serialize_of_size (small : packet.size ≤ 65517) : ∃ body, packet.serialize = .ok body := by
  cases packet with
  | request => exact ⟨[], rfl⟩
  | response packet => exact ⟨packet.serialize, rfl⟩
  | message packet =>
    have fits : (utf8 packet.data).length ≤ maxBytes := by
      simp only [size] at small
      unfold maxBytes
      omega
    exact ⟨_, MessagePacket.serialize_eq_ok.mpr ⟨fits, rfl⟩⟩

end Packets

variable {senderId : UInt64} {datagram : Bytes}

namespace Discovery
variable (crypto : DiscoveryCrypto)

theorem length_encode (encoded : encode crypto packet senderId = .ok datagram) :
    datagram.length = 32 + ((20 + packet.size) / 16 + 1) * 16 := by
  obtain ⟨body, wrote, -, rfl⟩ := (encode_eq_ok crypto).mp encoded
  have length := Packets.length_serialize wrote
  rw [List.length_append, crypto.length_hmac, length_encrypt]
  simp only [List.length_append, length_writeU16, Header.length_serialize, length, blockSize]
  omega

theorem encode_of_size (small : packet.size ≤ 65517) (senderId : UInt64) :
    ∃ datagram, encode crypto packet senderId = .ok datagram := by
  obtain ⟨body, wrote⟩ := Packets.serialize_of_size small
  have length := Packets.length_serialize wrote
  refine ⟨_, (encode_eq_ok crypto).mpr ⟨body, wrote, ?_, rfl⟩⟩
  rw [List.length_append, Header.length_serialize]
  omega

theorem size_of_encode (encoded : encode crypto packet senderId = .ok datagram) : packet.size ≤ 65517 := by
  obtain ⟨body, wrote, fits, -⟩ := (encode_eq_ok crypto).mp encoded
  have length := Packets.length_serialize wrote
  rw [List.length_append, Header.length_serialize] at fits
  omega

theorem length_le_iff (encoded : encode crypto packet senderId = .ok datagram) :
    datagram.length ≤ maxDatagramSize ↔ packet.Fits := by
  have small := size_of_encode crypto encoded
  rw [Packets.fits_iff, length_encode crypto encoded, maxDatagramSize]
  omega

/-- Datagrams fit the buffer unless they grow out of it by what is added behind the check. -/
theorem datagrams_fit_iff (packet : Packets) (senderId : UInt64) :
    (∀ datagram, encode crypto packet senderId = .ok datagram → datagram.length ≤ maxDatagramSize) ↔
      packet.Fits := by
  constructor
  · intro fit
    rw [Packets.fits_iff]
    intro long
    obtain ⟨datagram, encoded⟩ := encode_of_size crypto long.2 senderId
    have fits := (length_le_iff crypto encoded).mp (fit datagram encoded)
    exact packet.fits_iff.mp fits long
  · intro fits datagram encoded
    exact (length_le_iff crypto encoded).mpr fits

/-- Under every cipher, a response with 32732 bytes of data is one byte longer than the buffer. -/
theorem long_response_exceeds_buffer :
    maxDatagramSize < 65536 ∧ ∀ crypto senderId, ∃ datagram,
      encode crypto (.response ⟨List.replicate 32732 0⟩) senderId = .ok datagram ∧ datagram.length = 65536 := by
  have longer (crypto : DiscoveryCrypto) (senderId : UInt64) (data : Bytes) (length : data.length = 32732) :
      ∃ datagram, encode crypto (.response ⟨data⟩) senderId = .ok datagram ∧ datagram.length = 65536 := by
    have size : (Packets.response ⟨data⟩).size = 65468 := by rw [Packets.size, length]
    obtain ⟨datagram, encoded⟩ := encode_of_size crypto (by rw [size]; decide) senderId
    refine ⟨datagram, encoded, ?_⟩
    rw [length_encode crypto encoded, size]
  constructor
  · decide
  · intro crypto senderId
    exact longer crypto senderId _ List.length_replicate

end Discovery

end Nethernet
