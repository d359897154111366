import Nethernet.Protocol.Codec

/-! The server details that a discovery response carries, in their binary form. -/

set_option autoImplicit false

namespace Nethernet
open Foundation Codec

inductive ServerDataVersion where
  | v4
  | v5
  | v6
  | v7
  deriving DecidableEq, Repr

namespace ServerDataVersion

def current : ServerDataVersion := .v7

def fromByte (byte : UInt8) : Except ProtocolError ServerDataVersion :=
  if byte = 4 then .ok .v4
  else if byte = 5 then .ok .v5
  else if byte = 6 then .ok .v6
  else if byte = 7 then .ok .v7
  else .error (.other ("unsupported version: got " ++ toString byte.toNat))

def asByte : ServerDataVersion → UInt8
  | .v4 => 4
  | .v5 => 5
  | .v6 => 6
  | .v7 => 7

-- versions 4 and 6 prefix their texts with a byte, the others with a varuint
def shortText (version : ServerDataVersion) : Bool := version = .v4 || version = .v6

end ServerDataVersion

structure ServerData where
  serverName : String
  levelName : String
  gameType : UInt8
  playerCount : Int32
  maxPlayerCount : Int32
  editorWorld : Bool
  hardcore : Bool
  flagA : Bool
  flagB : Bool
  sessionId : String
  transportLayer : UInt8
  connectionType : UInt8
  protocolVersion : UInt32
  gameVersion : String
  deriving DecidableEq, Repr

namespace ServerData

def new (serverName levelName : String) : ServerData where
  serverName := serverName
  levelName := levelName
  gameType := 0
  playerCount := 1
  maxPlayerCount := 8
  editorWorld := false
  hardcore := false
  flagA := true
  flagB := true
  sessionId := ""
  transportLayer := 2
  connectionType := 4
  protocolVersion := 0
  gameVersion := ""

/-! ## The status document -/

def escapeChar (c : Char) : List Char :=
  if c = '"' then ['\\', '"']
  else if c = '\\' then ['\\', '\\']
  else if c = '\n' then ['\\', 'n']
  else if c = '\r' then ['\\', 'r']
  else if c = '\t' then ['\\', 't']
  else if c.toNat < 0x20 then
    ['\\', 'u', '0', '0', Nat.digitChar (c.toNat / 16), Nat.digitChar (c.toNat % 16)]
  else [c]

def escape (value : String) : String := "\"" ++ String.ofList (value.toList.flatMap escapeChar) ++ "\""

def toJson (data : ServerData) : String :=
  "\x7b\"name\":" ++ escape data.serverName ++ ",\"protocol\":" ++ toString data.protocolVersion
    ++ ",\"version\":" ++ escape data.gameVersion ++ ",\"level\":" ++ escape data.levelName
    ++ ",\"players\":" ++ toString data.playerCount ++ ",\"maxPlayers\":" ++ toString data.maxPlayerCount
    ++ ",\"gameType\":" ++ toString data.gameType ++ "\x7d"

/-! ## Writing -/

def writeBool (value : Bool) : Bytes := [if value then 1 else 0]

def writeText (text : String) : Bytes := writeBytesVaruint (utf8 text)

-- the transport layer is not written: version 7 fixes it to 2
def serialize (data : ServerData) : Bytes :=
  [ServerDataVersion.current.asByte] ++ writeText data.serverName ++
    writeVarint32 data.protocolVersion.toInt32 ++ writeText data.gameVersion ++
    writeText data.levelName ++ writeVarint32 data.playerCount ++ writeVarint32 data.maxPlayerCount ++
    writeVarint32 data.gameType.toUInt32.toInt32 ++ writeBool data.editorWorld ++
    writeBool data.hardcore ++ writeBool data.flagA ++ writeBool data.flagB ++
    writeText data.sessionId ++ writeVarint32 data.connectionType.toUInt32.toInt32

/-! ## Reading -/

def checkText (what : String) (bytes : Bytes) : ByteReader String :=
  Reader.ofExcept ((fromUtf8 bytes).mapError fun e => .other ("invalid " ++ what ++ " UTF-8: " ++ e))

def readString (what : String) : ByteReader String := do
  let bytes ← readBytesU8
  checkText what bytes

def readVarString (what : String) : ByteReader String := do
  let bytes ← readBytesVaruint
  checkText what bytes

def readText (version : ServerDataVersion) (what : String) : ByteReader String :=
  if version.shortText then readString what else readVarString what

def readBool : ByteReader Bool := do
  let byte ← readU8
  return byte ≠ 0

-- a byte whose lowest bit is dropped
def readHalved : ByteReader Int32 := do
  let byte ← readU8
  return (byte >>> 1).toUInt32.toInt32

/-- `u8::try_from` of a number read as an i32. -/
def toU8 (what : String) (value : Int32) : ByteReader UInt8 :=
  Reader.ofExcept (if 0 ≤ value.toInt ∧ value.toInt ≤ 255 then .ok (UInt8.ofNat value.toInt.toNat)
    else .error (.other (what ++ " " ++ toString value.toInt ++ " does not fit into u8")))

def readProtocol (version : ServerDataVersion) : ByteReader (UInt32 × String) :=
  if version = .v7 then do
    let protocol ← readVarint32
    let gameVersion ← readVarString "game version"
    return (protocol.toUInt32, gameVersion)
  else return (0, "")

-- player count, maximum player count and game type, in each version's own order
def readCounts : ServerDataVersion → ByteReader (Int32 × Int32 × Int32)
  | .v7 => do
    let playerCount ← readVarint32
    let maxPlayerCount ← readVarint32
    let gameType ← readVarint32
    return (playerCount, maxPlayerCount, gameType)
  | .v5 => do
    let gameType ← readVarint32
    let playerCount ← readI32
    let maxPlayerCount ← readI32
    return (playerCount, maxPlayerCount, gameType)
  | _ => do
    let gameType ← readHalved
    let playerCount ← readI32
    let maxPlayerCount ← readI32
    return (playerCount, maxPlayerCount, gameType)

def readFlags : ServerDataVersion → ByteReader (Bool × Bool × String)
  | .v4 => return (true, true, "")
  | .v5 => do
    let flagA ← readBool
    let flagB ← readBool
    return (flagA, flagB, "")
  | .v6 => do
    let flagA ← readBool
    let flagB ← readBool
    let sessionId ← readString "session id"
    return (flagA, flagB, sessionId)
  | .v7 => do
    let flagA ← readBool
    let flagB ← readBool
    let sessionId ← readVarString "session id"
    return (flagA, flagB, sessionId)

def readTransport : ServerDataVersion → ByteReader (Int32 × Int32)
  | .v7 => do
    let connectionType ← readVarint32
    return (2, connectionType)
  | .v5 => do
    let transportLayer ← readVarint32
    let connectionType ← readVarint32
    return (transportLayer, connectionType)
  | _ => do
    let transportLayer ← readHalved
    let connectionType ← readHalved
    return (transportLayer, connectionType)

def deserialize : ByteReader ServerData := do
  let byte ← readU8
  let version ← Reader.ofExcept (ServerDataVersion.fromByte byte)
  let serverName ← readText version "server name"
  let (protocolVersion, gameVersion) ← readProtocol version
  let levelName ← readText version "level name"
  let (playerCount, maxPlayerCount, gameType) ← readCounts version
  let gameType ← toU8 "game type" gameType
  let editorWorld ← readBool
  let hardcore ← readBool
  let (flagA, flagB, sessionId) ← readFlags version
  let (transportLayer, connectionType) ← readTransport version
  let transportLayer ← toU8 "transport layer" transportLayer
  let connectionType ← toU8 "connection type" connectionType
  return ⟨serverName, levelName, gameType, playerCount, maxPlayerCount, editorWorld, hardcore, flagA,
    flagB, sessionId, transportLayer, connectionType, protocolVersion, gameVersion⟩

/-- Reads records of versions 4 to 7 and rejects trailing bytes. -/
def decode (data : Bytes) : Except ProtocolError ServerData := do
  let (value, rest) ← deserialize data
  if rest.length ≠ 0 then .error (.other ("unread " ++ toString rest.length ++ " bytes"))
  else .ok value

end ServerData

end Nethernet
