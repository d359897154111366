import Nethernet.Foundation.Outcome
import Nethernet.Protocol.ServerData

/-! The binary form of the server details: what is written reads back, and the
records of all versions are prefix-free. -/

set_option autoImplicit false

namespace Nethernet
open Foundation Codec

variable (version : ServerDataVersion) {data : ServerData} (what : String)

namespace ServerData

open Reader (Reads Local)

/-! ## Round trip -/

theorem reads_readBool (value : Bool) : Reads readBool (writeBool value) value := by
  intro rest
  cases value <;> rfl

theorem reads_readVarString {text : String} (fits : (utf8 text).length ≤ maxBytes) (what : String) :
    Reads (readVarString what) (writeText text) text := by
  have checked : checkText what (utf8 text) = Reader.ofExcept (.ok text) := by
    rw [checkText, fromUtf8_utf8]
    rfl
  rw [← List.append_nil (writeText text)]
  apply (reads_readBytesVaruint fits).bind
  rw [checked]
  exact .ofExcept text

/-- A byte written as an i32 converts back. -/
theorem reads_toU8 (value : UInt8) : Reads (toU8 what value.toUInt32.toInt32) [] value := by
  have bound := value.toNat_lt
  have number : value.toUInt32.toInt32.toInt = value.toNat := by
    change value.toUInt32.toBitVec.toInt = _
    rw [BitVec.toInt_eq_toNat_cond]
    simp
    omega
  rw [toU8, number, if_pos (by omega), Int.toNat_natCast, UInt8.ofNat_toNat]
  exact .ofExcept value

theorem fromByte_asByte : ServerDataVersion.fromByte version.asByte = .ok version := by
  cases version <;> rfl

-- the layout of version 7
theorem readText_current : readText .current what = readVarString what := rfl

theorem reads_readProtocol {gameVersion : String} (fits : (utf8 gameVersion).length ≤ maxBytes) (protocol : UInt32) :
    Reads (readProtocol .current) (writeVarint32 protocol.toInt32 ++ writeText gameVersion) (protocol, gameVersion) := by
  change Reads (readVarint32 >>= _) _ _
  apply (reads_readVarint32 protocol.toInt32).bind
  rw [← List.append_nil (writeText gameVersion)]
  apply (reads_readVarString fits _).bind
  exact .pure _

theorem reads_readCounts (playerCount maxPlayerCount gameType : Int32) :
    Reads (readCounts .current)
      (writeVarint32 playerCount ++ (writeVarint32 maxPlayerCount ++ writeVarint32 gameType))
      (playerCount, maxPlayerCount, gameType) := by
  apply (reads_readVarint32 playerCount).bind
  apply (reads_readVarint32 maxPlayerCount).bind
  rw [← List.append_nil (writeVarint32 gameType)]
  apply (reads_readVarint32 gameType).bind
  exact .pure _

theorem reads_readFlags {sessionId : String} (fits : (utf8 sessionId).length ≤ maxBytes) (flagA flagB : Bool) :
    Reads (readFlags .current) (writeBool flagA ++ (writeBool flagB ++ writeText sessionId))
      (flagA, flagB, sessionId) := by
  apply (reads_readBool flagA).bind
  apply (reads_readBool flagB).bind
  rw [← List.append_nil (writeText sessionId)]
  apply (reads_readVarString fits _).bind
  exact .pure _

theorem reads_readTransport (connectionType : Int32) :
    Reads (readTransport .current) (writeVarint32 connectionType) (2, connectionType) := by
  rw [← List.append_nil (writeVarint32 connectionType)]
  apply (reads_readVarint32 connectionType).bind
  exact .pure _

theorem reads_deserialize (layer : data.transportLayer = 2) (serverName : (utf8 data.serverName).length ≤ maxBytes)
    (levelName : (utf8 data.levelName).length ≤ maxBytes) (sessionId : (utf8 data.sessionId).length ≤ maxBytes)
    (gameVersion : (utf8 data.gameVersion).length ≤ maxBytes) : Reads deserialize data.serialize data := by
  have parts : data.serialize = [ServerDataVersion.current.asByte] ++ (writeText data.serverName ++
      ((writeVarint32 data.protocolVersion.toInt32 ++ writeText data.gameVersion) ++
      (writeText data.levelName ++ ((writeVarint32 data.playerCount ++ (writeVarint32 data.maxPlayerCount ++
        writeVarint32 data.gameType.toUInt32.toInt32)) ++
      (writeBool data.editorWorld ++ (writeBool data.hardcore ++
      ((writeBool data.flagA ++ (writeBool data.flagB ++ writeText data.sessionId)) ++
      (writeVarint32 data.connectionType.toUInt32.toInt32 ++ [])))))))) := by
    simp only [serialize, List.append_assoc, List.append_nil]
  rw [parts]
  unfold deserialize
  apply (reads_readU8 _).bind
  rw [fromByte_asByte]
  apply (Reads.ofExcept _).skip
  rw [readText_current, readText_current]
  apply (reads_readVarString serverName _).bind
  apply (reads_readProtocol gameVersion _).bind
  apply (reads_readVarString levelName _).bind
  apply (reads_readCounts _ _ _).bind
  apply (reads_toU8 _ _).skip
  apply (reads_readBool _).bind
  apply (reads_readBool _).bind
  apply (reads_readFlags sessionId _ _).bind
  apply (reads_readTransport _).bind
  apply (reads_toU8 _ 2).skip
  apply (reads_toU8 _ _).skip
  rw [← layer]
  exact .pure data

/-- What `decode` makes of a record that is read to its end. -/
theorem decode_of_reads {bytes : Bytes} (reads : Reads deserialize bytes data) : decode bytes = .ok data := by
  unfold decode
  rw [reads.whole]
  rfl

/-- Server details survive their binary form. -/
theorem decode_serialize (data : ServerData) (layer : data.transportLayer = 2)
    (serverName : (utf8 data.serverName).length ≤ maxBytes) (levelName : (utf8 data.levelName).length ≤ maxBytes)
    (sessionId : (utf8 data.sessionId).length ≤ maxBytes) (gameVersion : (utf8 data.gameVersion).length ≤ maxBytes) :
    decode data.serialize = .ok data :=
  decode_of_reads (reads_deserialize layer serverName levelName sessionId gameVersion)

theorem decode_serialize_extremes :
    decode (serialize { new "é" "b" with
      playerCount := -1, maxPlayerCount := -2147483648, protocolVersion := 4294967295, gameType := 255 }) =
    .ok { new "é" "b" with
      playerCount := -1, maxPlayerCount := -2147483648, protocolVersion := 4294967295, gameType := 255 } :=
  decode_serialize _ rfl (by decide) (by decide) (by decide) (by decide)

/-! ## Prefix-free records -/

theorem local_readText : Local (readText version what) := by
  unfold readText
  split
  · exact local_readBytesU8.bind fun _ => .ofExcept _
  · exact local_readBytesVaruint.bind fun _ => .ofExcept _

theorem local_readBool : Local readBool := local_readU8.bind fun _ => .pure _

theorem local_readHalved : Local readHalved := local_readU8.bind fun _ => .pure _

theorem local_readProtocol : Local (readProtocol version) := by
  unfold readProtocol
  split
  · exact local_readVarint32.bind fun _ => (local_readBytesVaruint.bind fun _ => .ofExcept _).bind fun _ => .pure _
  · exact .pure _

theorem local_readCounts : Local (readCounts version) := by
  have halved : Local (readHalved >>= fun gameType => readI32 >>= fun playerCount => readI32 >>= fun maxPlayerCount =>
      pure (playerCount, maxPlayerCount, gameType)) :=
    local_readHalved.bind fun _ => local_readI32.bind fun _ => local_readI32.bind fun _ => .pure _
  cases version with
  | v7 => exact local_readVarint32.bind fun _ => local_readVarint32.bind fun _ => local_readVarint32.bind fun _ => .pure _
  | v5 => exact local_readVarint32.bind fun _ => local_readI32.bind fun _ => local_readI32.bind fun _ => .pure _
  | v4 => exact halved
  | v6 => exact halved

theorem local_readFlags : Local (readFlags version) := by
  cases version with
  | v4 => exact .pure _
  | v5 => exact local_readBool.bind fun _ => local_readBool.bind fun _ => .pure _
  | v6 =>
    exact local_readBool.bind fun _ => local_readBool.bind fun _ =>
      (local_readBytesU8.bind fun _ => .ofExcept _).bind fun _ => .pure _
  | v7 =>
    exact local_readBool.bind fun _ => local_readBool.bind fun _ =>
      (local_readBytesVaruint.bind fun _ => .ofExcept _).bind fun _ => .pure _

theorem local_readTransport : Local (readTransport version) := by
  cases version with
  | v7 => exact local_readVarint32.bind fun _ => .pure _
  | v5 => exact local_readVarint32.bind fun _ => local_readVarint32.bind fun _ => .pure _
  | v4 => exact local_readHalved.bind fun _ => local_readHalved.bind fun _ => .pure _
  | v6 => exact local_readHalved.bind fun _ => local_readHalved.bind fun _ => .pure _

theorem local_deserialize : Local deserialize := by
  apply local_readU8.bind
  intro byte
  apply (Local.ofExcept _).bind
  intro version
  apply (local_readText version _).bind
  intro serverName
  apply (local_readProtocol version).bind
  rintro ⟨protocolVersion, gameVersion⟩
  apply (local_readText version _).bind
  intro levelName
  apply (local_readCounts version).bind
  rintro ⟨playerCount, maxPlayerCount, gameType⟩
  apply (Local.ofExcept _).bind
  intro gameType
  apply local_readBool.bind
  intro editorWorld
  apply local_readBool.bind
  intro hardcore
  apply (local_readFlags version).bind
  rintro ⟨flagA, flagB, sessionId⟩
  apply (local_readTransport version).bind
  rintro ⟨transportLayer, connectionType⟩
  apply (Local.ofExcept _).bind
  intro transportLayer
  apply (Local.ofExcept _).bind
  intro connectionType
  exact .pure _

theorem deserialize_of_decode {bytes : Bytes} (accepted : decode bytes = .ok data) :
    deserialize bytes = .ok (data, []) := by
  unfold decode at accepted
  obtain ⟨⟨value, rest⟩, ran, accepted⟩ := Except.bind_eq_ok.mp accepted
  dsimp only at accepted
  split at accepted
  · cases accepted
  · rename_i ended
    cases accepted
    rw [ran, List.length_eq_zero_iff.mp (not_not.mp ended)]

/-- The accepted records are prefix-free, and reading stays inside its input. -/
theorem records_prefix_free (bytes : Bytes) (data : ServerData) (accepted : decode bytes = .ok data) :
    (∀ more other, more ≠ [] → decode (bytes ++ more) ≠ .ok other) ∧
    (∀ front back other, bytes = front ++ back → back ≠ [] → decode front ≠ .ok other) ∧
    deserialize bytes = .ok (data, []) ∧
    ∀ stream value rest, deserialize stream = .ok (value, rest) → rest.length ≤ stream.length := by
  have whole := deserialize_of_decode accepted
  refine ⟨fun more other some longer => ?_, fun front back other split some shorter => ?_, whole, ?_⟩
  · exact some (local_deserialize.eq_nil_of_whole whole (deserialize_of_decode longer))
  · rw [split] at whole
    exact some (local_deserialize.eq_nil_of_whole (deserialize_of_decode shorter) whole)
  · intro stream value rest ran
    obtain ⟨taken, rfl, -⟩ := local_deserialize stream value rest ran
    simp

-- a record of version 4: no names, one of eight players
theorem version_four_record_prefix_free :
    decode [4, 0, 0, 0, 1, 0, 0, 0, 8, 0, 0, 0, 0, 0, 4, 8] = .ok (new "" "") ∧
    ∀ more other, more ≠ [] → decode ([4, 0, 0, 0, 1, 0, 0, 0, 8, 0, 0, 0, 0, 0, 4, 8] ++ more) ≠ .ok other :=
  ⟨rfl, (records_prefix_free _ (new "" "") rfl).1⟩

end ServerData

end Nethernet
