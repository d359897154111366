import Mathlib.Data.FinEnum
import Nethernet.Foundation.Blocks
import Nethernet.Foundation.Countdown
import Nethernet.Foundation.Hex
import Nethernet.Foundation.Outcome
import Nethernet.Protocol.Codec

/-! Discovery datagrams: an HMAC, then the encrypted length, header and packet.

The block cipher and the HMAC are third party and enter as `DiscoveryCrypto`. -/

set_option autoImplicit false

namespace Nethernet
open Foundation Codec

/-- AES-256 on one block and HMAC-SHA256, both under the fixed public key. -/
structure DiscoveryCrypto where
  encryptBlock : Bytes → Bytes
  decryptBlock : Bytes → Bytes
  hmac : Bytes → Bytes
  verifySlice : Bytes → Bytes → Bool
  length_encryptBlock : ∀ block, block.length = 16 → (encryptBlock block).length = 16
  decrypt_encrypt : ∀ block, block.length = 16 → decryptBlock (encryptBlock block) = block
  length_hmac : ∀ data, (hmac data).length = 32
  verify_hmac : ∀ data, verifySlice data (hmac data) = true

/-- A cipher and a checksum known by recorded values; every other block is left as it is. -/
def DiscoveryCrypto.recorded (blocks tags : List (Bytes × Bytes))
    (sized : ∀ pair ∈ blocks, pair.1.length = 16 ∧ pair.2.length = 16)
    (tagged : ∀ pair ∈ tags, pair.2.length = 32) : DiscoveryCrypto where
  encryptBlock := swaps blocks
  decryptBlock := (swaps blocks).symm
  hmac data := ((tags.find? (·.1 = data)).map (·.2)).getD (List.replicate 32 0)
  verifySlice data tag := ((tags.find? (·.1 = data)).map (·.2)).getD (List.replicate 32 0) = tag
  length_encryptBlock _ whole := swaps_closed (fun block : Bytes => block.length = 16) sized whole
  decrypt_encrypt block _ := (swaps blocks).symm_apply_apply block
  length_hmac data := by
    cases found : tags.find? (·.1 = data) with
    | none => simp
    | some pair => exact tagged pair (List.mem_of_find?_eq_some found)
  verify_hmac _ := decide_eq_true rfl

namespace Discovery
variable (crypto : DiscoveryCrypto)

/-! ## Encryption -/

def blockSize : Nat := 16

def padded (data : Bytes) : Bytes :=
  let paddingLen := blockSize - data.length % blockSize
  data ++ List.replicate paddingLen (UInt8.ofNat paddingLen)

def encrypt (data : Bytes) : Bytes :=
  let buf := padded data
  mapBlocks blockSize crypto.encryptBlock (buf.length / blockSize) buf

-- the padding bytes are compared without an early exit
def mismatched (paddingLen : UInt8) (bytes : Bytes) : UInt8 :=
  bytes.foldl (fun seen byte => seen ||| (byte ^^^ paddingLen)) 0

def unpadded (buf : Bytes) : Except ProtocolError Bytes :=
  match buf.getLast? with
  | some paddingLen =>
    if 0 < paddingLen ∧ paddingLen.toNat ≤ min blockSize buf.length then
      let paddingStart := buf.length - paddingLen.toNat
      if mismatched paddingLen (buf.drop paddingStart) = 0 then .ok (buf.take paddingStart)
      else .error (.other "Invalid padding")
    else .error (.other "Invalid padding")
  | none => .error (.other "Invalid padding")

def decrypt (buf : Bytes) : Except ProtocolError Bytes :=
  if buf.isEmpty || buf.length % blockSize != 0 then .error (.other "Invalid encrypted data length")
  else unpadded (mapBlocks blockSize crypto.decryptBlock (buf.length / blockSize) buf)

variable (data : Bytes)

theorem length_padded : (padded data).length = (data.length / blockSize + 1) * blockSize := by
  have split := Nat.mod_add_div data.length blockSize
  have bound := Nat.mod_lt data.length (show 0 < blockSize by decide)
  rw [padded, List.length_append, List.length_replicate, Nat.add_mul, Nat.mul_comm (data.length / _)]
  omega

theorem mismatched_replicate (count : Nat) (byte : UInt8) :
    mismatched byte (List.replicate count byte) = 0 := by
  unfold mismatched
  induction count with
  | zero => rfl
  | succ count ih => simpa [List.replicate_succ] using ih

-- no bit set so far is ever cleared, so a zero at the end says that every byte agreed
theorem mismatched_eq_zero {byte : UInt8} {bytes : Bytes} :
    mismatched byte bytes = 0 ↔ ∀ other ∈ bytes, other = byte := by
  have spread (seen : UInt8) : bytes.foldl (fun seen other => seen ||| (other ^^^ byte)) seen = 0 ↔
      seen = 0 ∧ ∀ other ∈ bytes, other = byte := by
    induction bytes generalizing seen with
    | nil => simp
    | cons other bytes ih =>
      rw [List.foldl_cons, ih, UInt8.or_eq_zero_iff, UInt8.xor_eq_zero_iff, List.forall_mem_cons, and_assoc]
  rw [mismatched, spread]
  exact and_iff_right rfl

theorem unpadded_padded : unpadded (padded data) = .ok data := by
  have bound := Nat.mod_lt data.length (show 0 < blockSize by decide)
  obtain ⟨count, amount⟩ : ∃ count, blockSize - data.length % blockSize = count + 1 :=
    ⟨blockSize - data.length % blockSize - 1, by omega⟩
  have small : count + 1 ≤ blockSize := by omega
  have value : (UInt8.ofNat (count + 1)).toNat = count + 1 := by
    apply UInt8.toNat_ofNat_of_lt'
    exact Nat.lt_of_le_of_lt small (by decide)
  have shape : padded data = data ++ List.replicate (count + 1) (UInt8.ofNat (count + 1)) := by
    simp only [padded, amount]
  have length : (padded data).length = data.length + (count + 1) := by
    rw [shape, List.length_append, List.length_replicate]
  have last : (padded data).getLast? = some (UInt8.ofNat (count + 1)) := by
    rw [shape, List.replicate_succ', ← List.append_assoc, List.getLast?_concat]
  have positive : 0 < UInt8.ofNat (count + 1) := by
    rw [UInt8.lt_iff_toNat_lt, value]
    exact Nat.succ_pos count
  have start : (padded data).length - (UInt8.ofNat (count + 1)).toNat = data.length := by
    rw [length, value]
    omega
  unfold unpadded
  rw [last]
  dsimp only
  rw [if_pos ⟨positive, by rw [value, length]; omega⟩, start, shape, List.drop_left, List.take_left,
    mismatched_replicate, if_pos rfl]

/-- Padding that is accepted is the padding of what comes before it. -/
theorem padded_of_unpadded {buf data : Bytes} (whole : buf.length % blockSize = 0)
    (accepted : unpadded buf = .ok data) : buf = padded data := by
  unfold unpadded at accepted
  split at accepted
  · rename_i byte _
    split at accepted
    · rename_i bounds
      dsimp only at accepted
      split at accepted
      · rename_i agree
        cases accepted
        have positive := UInt8.lt_iff_toNat_lt.mp bounds.1
        have small : byte.toNat ≤ blockSize := bounds.2.trans (Nat.min_le_left _ _)
        have inside : byte.toNat ≤ buf.length := bounds.2.trans (Nat.min_le_right _ _)
        have tail : buf.drop (buf.length - byte.toNat) = List.replicate byte.toNat byte := by
          rw [List.eq_replicate_iff, List.length_drop, Nat.sub_sub_self inside]
          exact ⟨rfl, mismatched_eq_zero.mp agree⟩
        have amount : blockSize - (buf.take (buf.length - byte.toNat)).length % blockSize = byte.toNat := by
          rw [List.length_take_of_le (Nat.sub_le _ _)]
          unfold blockSize at whole small ⊢
          have nonzero : 0 < byte.toNat := positive
          omega
        rw [padded, amount, UInt8.ofNat_toNat, ← tail, List.take_append_drop]
      · cases accepted
    · cases accepted
  · cases accepted

theorem length_encrypt : (encrypt crypto data).length = (data.length / blockSize + 1) * blockSize := by
  have blocks : (padded data).length / blockSize = data.length / blockSize + 1 := by
    rw [length_padded, Nat.mul_div_cancel _ (by decide)]
  unfold encrypt
  dsimp only
  rw [blocks]
  exact length_mapBlocks (length_padded data) crypto.length_encryptBlock

theorem decrypt_encrypt (data : Bytes) : decrypt crypto (encrypt crypto data) = .ok data := by
  have blocks : (padded data).length / blockSize = data.length / blockSize + 1 := by
    rw [length_padded, Nat.mul_div_cancel _ (by decide)]
  have length := length_encrypt crypto data
  have whole : ((encrypt crypto data).isEmpty || (encrypt crypto data).length % blockSize != 0) = false := by
    rw [Bool.or_eq_false_iff]
    constructor
    · rw [List.isEmpty_eq_false_iff, ← List.length_pos_iff, length]
      exact Nat.mul_pos (Nat.succ_pos _) (by decide)
    · rw [length, Nat.mul_mod_left]
      rfl
  unfold decrypt
  rw [whole, length, Nat.mul_div_cancel _ (by decide)]
  simp only [Bool.false_eq_true, if_false]
  unfold encrypt
  dsimp only
  rw [blocks, mapBlocks_inverse (length_padded data) crypto.length_encryptBlock crypto.decrypt_encrypt,
    unpadded_padded]

/-- Only the encryption of a text decrypts to it. -/
theorem encrypt_of_decrypt {buf data : Bytes} (accepted : decrypt crypto buf = .ok data) :
    buf = encrypt crypto data := by
  unfold decrypt at accepted
  split at accepted
  · cases accepted
  · rename_i sized
    have whole : buf.length % blockSize = 0 := by simp_all
    have length : buf.length = buf.length / blockSize * blockSize :=
      (Nat.div_mul_cancel (Nat.dvd_of_mod_eq_zero whole)).symm
    -- blocks are finitely many, so the cipher also undoes its own inverse
    have backward (block : Bytes) (full : block.length = blockSize) :=
      inverse_of_finite crypto.length_encryptBlock crypto.decrypt_encrypt full
    have plain := length_mapBlocks length fun block full => (backward block full).1
    have shape := padded_of_unpadded (by rw [plain, Nat.mul_mod_left]) accepted
    unfold encrypt
    dsimp only
    rw [← shape, plain, Nat.mul_div_cancel _ (by decide)]
    exact (mapBlocks_inverse length (fun block full => (backward block full).1) fun block full =>
      (backward block full).2).symm

end Discovery

/-! ## Packets -/

/-- A serialized signal addressed to one network id. -/
structure MessagePacket where
  recipientId : UInt64
  data : String
  deriving DecidableEq, Repr

structure ResponsePacket where
  applicationData : Bytes
  deriving DecidableEq, Repr

namespace ResponsePacket

-- the length prefix is cast to u32; the hex text is written in pieces of 512 bytes
def serialize (packet : ResponsePacket) : Bytes :=
  writeU32 (UInt32.ofNat (packet.applicationData.length * 2)) ++
    (chunksOf 512 packet.applicationData).flatMap Hex.encode

def deserialize : ByteReader ResponsePacket := do
  let hexData ← readBytesU32
  let applicationData ← Reader.ofExcept ((Hex.decode hexData).mapError fun e =>
    ProtocolError.other ("hex decode error: " ++ e.text))
  return ⟨applicationData⟩

end ResponsePacket

namespace MessagePacket

def serialize (packet : MessagePacket) : Except ProtocolError Bytes := do
  let data ← writeBytesU32 (utf8 packet.data)
  return writeU64 packet.recipientId ++ data

def deserialize : ByteReader MessagePacket := do
  let recipientId ← readU64
  let dataBytes ← readBytesU32
  let data ← Reader.ofExcept ((fromUtf8 dataBytes).mapError fun e =>
    ProtocolError.other ("invalid UTF-8: " ++ e))
  return ⟨recipientId, data⟩

end MessagePacket

inductive Packets where
  | request
  | response (packet : ResponsePacket)
  | message (packet : MessagePacket)
  deriving DecidableEq, Repr

namespace Packets

def id : Packets → UInt16
  | .request => 0
  | .response _ => 1
  | .message _ => 2

def serialize : Packets → Except ProtocolError Bytes
  | .request => .ok []
  | .response packet => .ok packet.serialize
  | .message packet => packet.serialize

-- the body that a packet id announces
def deserialize (packetId : UInt16) : ByteReader Packets :=
  if packetId = 0 then return .request
  else if packetId = 1 then Packets.response <$> ResponsePacket.deserialize
  else if packetId = 2 then Packets.message <$> MessagePacket.deserialize
  else Reader.fail (.other ("unknown packet ID: " ++ toString packetId.toNat))

end Packets

/-- Packet id and sender network id, followed by eight zero bytes on the wire. -/
structure Header where
  packetId : UInt16
  senderId : UInt64
  deriving DecidableEq, Repr

namespace Header

def serialize (header : Header) : Bytes :=
  writeU16 header.packetId ++ (writeU64 header.senderId ++ List.replicate 8 0)

def deserialize : ByteReader Header := do
  let packetId ← readU16
  let senderId ← readU64
  let _padding ← Reader.takeExact eof 8
  return ⟨packetId, senderId⟩

end Header

variable {packet : Packets}

namespace Discovery
variable (crypto : DiscoveryCrypto)

def encode (packet : Packets) (senderId : UInt64) : Except ProtocolError Bytes := do
  let body ← packet.serialize
  let content := (Header.mk packet.id senderId).serialize ++ body
  if content.length > 65535 then .error (.messageSizeExceeded content.length)
  else
    let payload := writeU16 (UInt16.ofNat content.length) ++ content
    return crypto.hmac payload ++ encrypt crypto payload

def readPayload : ByteReader (Packets × UInt64) := do
  let _length ← readU16
  let header ← Header.deserialize
  let packet ← Packets.deserialize header.packetId
  return (packet, header.senderId)

/-- Verifies and decrypts a datagram into its packet and sender id, rejecting trailing bytes. -/
def decode (data : Bytes) : Except ProtocolError (Packets × UInt64) :=
  if data.length < 32 then .error (.other "packet too short")
  else do
    let payload ← decrypt crypto (data.drop 32)
    if ¬ crypto.verifySlice payload (data.take 32) then .error (.other "checksum mismatch")
    else do
      let (decoded, rest) ← readPayload payload
      if 0 < rest.length then
        .error (.other ("trailing data in packet: " ++ toString rest.length ++
          " remaining bytes out of " ++ toString payload.length ++ " total payload bytes"))
      else return decoded

theorem encode_request (senderId : UInt64) : ∃ buf, encode crypto .request senderId = .ok buf := ⟨_, rfl⟩

/-- A packet is encoded if it has a body and the header with it is not above the limit. -/
theorem encode_eq_ok {senderId : UInt64} {datagram : Bytes} :
    encode crypto packet senderId = .ok datagram ↔ ∃ body, packet.serialize = .ok body ∧
      let content := (Header.mk packet.id senderId).serialize ++ body
      let payload := writeU16 (UInt16.ofNat content.length) ++ content
      content.length ≤ 65535 ∧ datagram = crypto.hmac payload ++ encrypt crypto payload := by
  unfold encode
  rw [Except.bind_eq_ok]
  apply exists_congr
  intro body
  apply and_congr_right
  intro _
  rw [Except.ite_error_eq_ok, Nat.not_lt]
  apply and_congr_right
  intro _
  constructor
  · intro sent
    cases sent
    rfl
  · intro sent
    rw [sent]
    rfl

/-! ## What is encoded is decoded -/

open Reader (Reads)

theorem reads_header (header : Header) : Reads Header.deserialize header.serialize header := by
  apply (reads_readU16 header.packetId).bind
  apply (reads_readU64 header.senderId).bind
  exact (Reader.reads_takeExact eof (List.replicate 8 0)).bind (.pure header)

theorem reads_message {packet : MessagePacket} {body : Bytes} (wrote : packet.serialize = .ok body) :
    Reads MessagePacket.deserialize body packet := by
  obtain ⟨data, written, built⟩ := Except.bind_eq_ok.mp wrote
  cases built
  apply (reads_readU64 packet.recipientId).bind
  rw [← List.append_nil data]
  apply (reads_readBytesU32 written).bind
  rw [fromUtf8_utf8]
  exact (Reads.ofExcept packet.data).bind (.pure packet)

theorem reads_response {packet : ResponsePacket} (fits : packet.serialize.length ≤ maxBytes) :
    Reads ResponsePacket.deserialize packet.serialize packet := by
  have text : (chunksOf 512 packet.applicationData).flatMap Hex.encode = Hex.encode packet.applicationData := by
    rw [Hex.encode_flatten, flatten_chunksOf]
  have wrote : writeBytesU32 (Hex.encode packet.applicationData) = .ok packet.serialize := by
    have short : ¬ (Hex.encode packet.applicationData).length > maxBytes := by
      rw [ResponsePacket.serialize, text, List.length_append] at fits
      omega
    rw [writeBytesU32, if_neg short, Hex.length_encode, ResponsePacket.serialize, text, Nat.mul_comm]
  rw [← List.append_nil packet.serialize]
  apply (reads_readBytesU32 wrote).bind
  rw [Hex.decode_encode]
  exact (Reads.ofExcept packet.applicationData).bind (.pure packet)

theorem reads_packets {body : Bytes} (wrote : packet.serialize = .ok body) (fits : body.length ≤ maxBytes) :
    Reads (Packets.deserialize packet.id) body packet := by
  cases packet with
  | request =>
    cases wrote
    exact .pure _
  | response packet =>
    cases wrote
    exact (reads_response fits).map Packets.response
  | message packet => exact (reads_message wrote).map Packets.message

-- opening a sealed payload leaves only the reading of it
theorem decode_sealed {payload : Bytes} {decoded : Packets × UInt64}
    (read : readPayload payload = .ok (decoded, [])) :
    decode crypto (crypto.hmac payload ++ encrypt crypto payload) = .ok decoded := by
  have tag := crypto.length_hmac payload
  unfold decode
  rw [if_neg (by rw [List.length_append]; omega), List.drop_left' tag, List.take_left' tag, decrypt_encrypt]
  simp [bind, Except.bind, crypto.verify_hmac, read, pure, Except.pure]

/-- Every packet comes back from its datagram, with its sender. -/
theorem decode_encode {senderId : UInt64} {datagram : Bytes} (encoded : encode crypto packet senderId = .ok datagram) :
    decode crypto datagram = .ok (packet, senderId) := by
  obtain ⟨body, wrote, fits, rfl⟩ := (encode_eq_ok crypto).mp encoded
  have short : body.length ≤ maxBytes := by
    rw [List.length_append] at fits
    unfold maxBytes
    omega
  apply decode_sealed
  apply Reads.whole
  apply (reads_readU16 _).bind
  apply (reads_header ⟨packet.id, senderId⟩).bind
  rw [← List.append_nil body]
  exact (reads_packets wrote short).bind (.pure (packet, senderId))

/-- A datagram gives back its packet and sender, and a ciphertext is accepted exactly for the text it encrypts. -/
theorem codec_lossless :
    (∀ packet senderId datagram, encode crypto packet senderId = .ok datagram →
      decode crypto datagram = .ok (packet, senderId)) ∧
    ∀ buf data, decrypt crypto buf = .ok data ↔ buf = encrypt crypto data := by
  constructor
  · intro packet senderId datagram encoded
    exact decode_encode crypto encoded
  · intro buf data
    constructor
    · exact encrypt_of_decrypt crypto
    · rintro rfl
      exact decrypt_encrypt crypto data

/-- A response of one byte under a cipher that swaps two blocks, and the text of its first block alone. -/
theorem response_lossless :
    let clear : Bytes := [24, 0, 1, 0, 9, 0, 0, 0, 0, 0, 0, 0, 0, 0, 0, 0]
    let crypto := DiscoveryCrypto.recorded [(clear, List.replicate 16 255)] [] (by decide) (by simp)
    let datagram := List.replicate 32 0 ++ List.replicate 16 255 ++
      [0, 0, 0, 0, 2, 0, 0, 0, 97, 98, 6, 6, 6, 6, 6, 6]
    (encode crypto (.response ⟨[171]⟩) 9 = .ok datagram ∧ decode crypto datagram = .ok (.response ⟨[171]⟩, 9)) ∧
    decrypt crypto (List.replicate 16 255 ++ List.replicate 16 16) = .ok clear := by
  intro clear crypto datagram
  have encoded : encode crypto (.response ⟨[171]⟩) 9 = .ok datagram := by decide +kernel
  constructor
  · exact ⟨encoded, (codec_lossless crypto).1 (.response ⟨[171]⟩) 9 datagram encoded⟩
  · exact ((codec_lossless crypto).2 _ _).mpr (by decide +kernel)

end Discovery

end Nethernet
