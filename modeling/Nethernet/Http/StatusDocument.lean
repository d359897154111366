import Nethernet.Foundation.Json
import Nethernet.Http.Client

/-! The status document, from the server's data to its JSON text and back. -/

set_option autoImplicit false

namespace Nethernet
open Foundation JsonText

/-! ## Writing -/

variable (data : ServerData)

namespace ServerData

theorem spells_escapeChar (c : Char) : Spells (escapeChar c) c := by
  unfold escapeChar
  split_ifs with quote backslash newline carriage tab control
  · rw [quote]
    exact .short rfl
  · rw [backslash]
    exact .short rfl
  · rw [newline]
    exact .short rfl
  · rw [carriage]
    exact .short rfl
  · rw [tab]
    exact .short rfl
  · have unit : ∀ unit < 0x20, codeUnit '0' '0' (Nat.digitChar (unit / 16)) (Nat.digitChar (unit % 16)) = some unit := by
      decide
    have spelt := Spells.unit (unit c.toNat control) c.valid
    rwa [Char.ofNat_toNat] at spelt
  · exact .plain (Nat.le_of_not_lt control) quote backslash

theorem spelt_escape (text : List Char) : StringBody (text.flatMap escapeChar) text := by
  induction text with
  | nil => exact .nil
  | cons c rest ih =>
    rw [List.flatMap_cons]
    exact .cons (spells_escapeChar c) ih

theorem denotes_escape (value : String) : Denotes (escape value).toList (.value (.string value.toList)) := by
  have text : (escape value).toList = '"' :: value.toList.flatMap escapeChar ++ ['"'] := by simp [escape]
  rw [text]
  exact .string (spelt_escape value.toList)

/-- What the status body denotes. -/
def json (data : ServerData) : JsonValue :=
  .object [("name".toList, .string data.serverName.toList), ("protocol".toList, .number (toString data.protocolVersion).toList),
    ("version".toList, .string data.gameVersion.toList), ("level".toList, .string data.levelName.toList),
    ("players".toList, .number (toString data.playerCount).toList),
    ("maxPlayers".toList, .number (toString data.maxPlayerCount).toList),
    ("gameType".toList, .number (toString data.gameType).toList)]

def fieldText (name : String) (text : List Char) : List Char := '"' :: name.toList ++ '"' :: ':' :: text

theorem toList_toJson : data.toJson.toList =
    '\x7b' :: (fieldText "name" (escape data.serverName).toList ++ ',' ::
      (fieldText "protocol" (toString data.protocolVersion).toList ++ ',' ::
      (fieldText "version" (escape data.gameVersion).toList ++ ',' ::
      (fieldText "level" (escape data.levelName).toList ++ ',' ::
      (fieldText "players" (toString data.playerCount).toList ++ ',' ::
      (fieldText "maxPlayers" (toString data.maxPlayerCount).toList ++ ',' ::
      fieldText "gameType" (toString data.gameType).toList)))))) ++ ['\x7d'] := by
  have name : "\x7b\"name\":".toList = '\x7b' :: fieldText "name" [] := rfl
  have protocol : ",\"protocol\":".toList = ',' :: fieldText "protocol" [] := rfl
  have version : ",\"version\":".toList = ',' :: fieldText "version" [] := rfl
  have level : ",\"level\":".toList = ',' :: fieldText "level" [] := rfl
  have players : ",\"players\":".toList = ',' :: fieldText "players" [] := rfl
  have maxPlayers : ",\"maxPlayers\":".toList = ',' :: fieldText "maxPlayers" [] := rfl
  have gameType : ",\"gameType\":".toList = ',' :: fieldText "gameType" [] := rfl
  have close : "\x7d".toList = ['\x7d'] := rfl
  unfold toJson
  simp only [String.toList_append, name, protocol, version, level, players, maxPlayers, gameType, close, fieldText,
    List.cons_append, List.append_assoc, List.nil_append]

theorem denotes_field (name : String) (plain : ∀ c ∈ name.toList, 0x20 ≤ c.toNat ∧ c ≠ '"' ∧ c ≠ '\\') {text : List Char}
    {json : JsonValue} (value : Denotes text (.value json)) : Denotes (fieldText name text) (.member name.toList json) :=
  .named (.of_plain plain) value

theorem denotes_toJson : Denotes data.toJson.toList (.element data.json) := by
  have protocol : Denotes (toString data.protocolVersion).toList (.value (.number (toString data.protocolVersion).toList)) :=
    denotes_repr data.protocolVersion.toNat
  have gameType : Denotes (toString data.gameType).toList (.value (.number (toString data.gameType).toList)) :=
    denotes_repr data.gameType.toNat
  have count (players : Int32) : Denotes (toString players).toList (.value (.number (toString players).toList)) :=
    denotes_int players.toInt
  rw [toList_toJson]
  refine (Denotes.object ?_).alone
  refine .members (denotes_field "name" (by decide) (denotes_escape data.serverName)) ?_
  refine .members (denotes_field "protocol" (by decide) protocol) ?_
  refine .members (denotes_field "version" (by decide) (denotes_escape data.gameVersion)) ?_
  refine .members (denotes_field "level" (by decide) (denotes_escape data.levelName)) ?_
  refine .members (denotes_field "players" (by decide) (count data.playerCount)) ?_
  refine .members (denotes_field "maxPlayers" (by decide) (count data.maxPlayerCount)) ?_
  exact .lastMember (denotes_field "gameType" (by decide) gameType)

end ServerData

/-! ## Reading -/

namespace Http.StatusDocument

-- a field that is missing or there twice is an error, one that is not asked for is skipped
def field (name : String) (members : List (List Char × JsonValue)) : Option JsonValue :=
  match members.filter fun member => member.1 = name.toList with
  | [(_, value)] => some value
  | _ => none

def text : JsonValue → Option String
  | .string text => some (String.ofList text)
  | _ => none

def unsigned (limit : Nat) : JsonValue → Option Nat
  | .number literal => (parseUnsigned limit literal).toOption
  | _ => none

-- minus zero is a float
def signed : JsonValue → Option Int32
  | .number ('-' :: digits) =>
    ((parseUnsigned (2 ^ 31 + 1) digits).toOption.filter (0 < ·)).map fun size => Int32.ofInt (-size)
  | .number digits => (parseUnsigned (2 ^ 31) digits).toOption.map fun size => Int32.ofInt size
  | _ => none

/-- The document of a JSON object, as the derived `Deserialize` takes its fields. -/
def ofJson : JsonValue → Option StatusDocument
  | .object members => do
    let name ← (field "name" members).bind text
    let protocol ← (field "protocol" members).bind (unsigned (2 ^ 32))
    let version ← (field "version" members).bind text
    let level ← (field "level" members).bind text
    let players ← (field "players" members).bind signed
    let maxPlayers ← (field "maxPlayers" members).bind signed
    let gameType ← (field "gameType" members).bind (unsigned (2 ^ 8))
    return ⟨name, UInt32.ofNat protocol, version, level, players, maxPlayers, UInt8.ofNat gameType⟩
  | _ => none

/-- Every JSON text is read as the document it denotes. -/
def ReadsJson (parseStatus : String → Except String StatusDocument) : Prop :=
  ∀ text json status, Denotes (String.toList text) (.element json) → ofJson json = some status → parseStatus text = .ok status

def ofServerData (data : ServerData) : StatusDocument :=
  ⟨data.serverName, data.protocolVersion, data.gameVersion, data.levelName, data.playerCount, data.maxPlayerCount,
    data.gameType⟩

theorem signed_toString (number : Int32) : signed (.number (toString number).toList) = some number := by
  have low := number.le_toInt
  have high := number.toInt_lt
  have back := Int32.ofInt_toInt number
  have text : (toString number).toList = (toString number.toInt).toList := rfl
  rw [text]
  generalize number.toInt = value at low high back
  cases value with
  | ofNat size =>
    have fits : size < 2 ^ 31 := by
      rw [Int.ofNat_eq_natCast] at high
      omega
    have unsigned : ∀ digits, size.repr.toList = '-' :: digits → False := by
      intro digits same
      exact not_mem_repr (by decide) size (same ▸ List.mem_cons_self)
    have literal : (toString (Int.ofNat size)).toList = size.repr.toList := rfl
    rw [literal, signed.eq_2 _ unsigned, parseUnsigned_repr fits]
    exact congrArg some back
  | negSucc size =>
    have fits : size + 1 < 2 ^ 31 + 1 := by omega
    have literal : (toString (Int.negSucc size)).toList = '-' :: (size + 1).repr.toList := String.toList_append
    rw [literal, signed, parseUnsigned_repr fits]
    exact congrArg some back

theorem ofJson_json : ofJson data.json = some (ofServerData data) := by
  have protocol : unsigned (2 ^ 32) (.number (toString data.protocolVersion).toList) = some data.protocolVersion.toNat :=
    congrArg Except.toOption (parseUnsigned_repr data.protocolVersion.toNat_lt)
  have gameType : unsigned (2 ^ 8) (.number (toString data.gameType).toList) = some data.gameType.toNat :=
    congrArg Except.toOption (parseUnsigned_repr data.gameType.toNat_lt)
  have found : ofJson data.json = do
      let name ← text (.string data.serverName.toList)
      let protocol ← unsigned (2 ^ 32) (.number (toString data.protocolVersion).toList)
      let version ← text (.string data.gameVersion.toList)
      let level ← text (.string data.levelName.toList)
      let players ← signed (.number (toString data.playerCount).toList)
      let maxPlayers ← signed (.number (toString data.maxPlayerCount).toList)
      let gameType ← unsigned (2 ^ 8) (.number (toString data.gameType).toList)
      return ⟨name, UInt32.ofNat protocol, version, level, players, maxPlayers, UInt8.ofNat gameType⟩ := rfl
  rw [found, protocol, gameType, signed_toString, signed_toString]
  simp [text, ofServerData]

end Http.StatusDocument

namespace Http

-- the reader of the library, as a parser of documents
def readStatus (text : String) : Except String StatusDocument :=
  match (JsonText.read text.toList).bind StatusDocument.ofJson with
  | some status => .ok status
  | none => .error "expected a status document"

theorem readStatus_readsJson : StatusDocument.ReadsJson readStatus := by
  intro text json status denotes document
  rw [readStatus, read_of_denotes denotes, Option.bind_some, document]

/-- The status document of every server is read back, with the defaults of new data in every field it does not carry. -/
theorem status_round_trip {parseStatus : String → Except String StatusDocument}
    (reads : StatusDocument.ReadsJson parseStatus) (data : ServerData) :
    serverDataFromJson parseStatus data.toJson =
      .ok { ServerData.new data.serverName data.levelName with
        protocolVersion := data.protocolVersion
        gameVersion := data.gameVersion
        playerCount := data.playerCount
        maxPlayerCount := data.maxPlayerCount
        gameType := data.gameType } := by
  have parsed := reads data.toJson data.json (.ofServerData data) data.denotes_toJson (StatusDocument.ofJson_json data)
  rw [serverDataFromJson, parsed]
  rfl

def quotedServer : ServerData :=
  { ServerData.new "Name \"Quoted\"\n\u001f" "World\\" with
    protocolVersion := 2177
    gameVersion := "1.26.50"
    playerCount := -3
    maxPlayerCount := 10
    gameType := 1 }

theorem quoted_server_read_back :
    StatusDocument.ReadsJson readStatus ∧ serverDataFromJson readStatus quotedServer.toJson = .ok quotedServer :=
  ⟨readStatus_readsJson, status_round_trip readStatus_readsJson quotedServer⟩

end Http

end Nethernet
