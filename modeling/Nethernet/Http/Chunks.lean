import Nethernet.Foundation.Hex
import Nethernet.Foundation.Incremental
import Nethernet.Http.Wire

/-! Chunked bodies, as a sender writes them: size lines in any spelling, chunks of
any length and a block of trailer lines. -/

set_option autoImplicit false

namespace Nethernet.Http
open Foundation

def crlf : Bytes := [13, 10]

/-- A size in 1 to 15 hexadecimal digits of either case, leading zeros included. -/
structure SizeLine (size : Nat) where
  digits : Bytes
  present : 1 ≤ digits.length
  few : digits.length ≤ 15
  hex : ∀ byte ∈ digits, Hex.isDigit byte = true
  denotes : Hex.number digits = size

def SizeLine.bytes {size : Nat} (line : SizeLine size) : Bytes := line.digits ++ crlf

structure Chunk where
  data : Bytes
  nonempty : data ≠ []
  size : SizeLine data.length

def Chunk.bytes (chunk : Chunk) : Bytes := chunk.size.bytes ++ (chunk.data ++ crlf)

-- the characters of a header name
def isToken (byte : UInt8) : Bool :=
  (0x30 ≤ byte && byte ≤ 0x39) || (0x41 ≤ byte && byte ≤ 0x5a) || (0x61 ≤ byte && byte ≤ 0x7a) ||
    byte ∈ [0x21, 0x23, 0x24, 0x25, 0x26, 0x27, 0x2a, 0x2b, 0x2d, 0x2e, 0x5e, 0x5f, 0x60, 0x7c, 0x7e]

-- the bytes of a header value: tabs and everything but control characters
def isFieldByte (byte : UInt8) : Bool := byte = 0x09 || (0x20 ≤ byte && byte ≠ 0x7f)

structure HeaderLine where
  name : Bytes
  value : Bytes
  named : name ≠ []
  token : ∀ byte ∈ name, isToken byte = true
  field : ∀ byte ∈ value, isFieldByte byte = true

def HeaderLine.text (line : HeaderLine) : Bytes := line.name ++ 0x3a :: line.value

def HeaderLine.bytes (line : HeaderLine) : Bytes := line.text ++ crlf

/-- Header lines up to the empty line. -/
def trailer (lines : List HeaderLine) : Bytes := lines.flatMap HeaderLine.bytes ++ crlf

/-- What is assumed of `httparse`: size lines and header lines are read as what they are,
and awaited until they are whole. -/
structure HttpCrates.Tokenise (crates : HttpCrates) : Prop where
  chunkSize : ∀ {size : Nat} (line : SizeLine size), ReadsWord crates.parseChunkSize (some .incomplete) line.bytes
    (some (.complete (line.bytes.length, UInt64.ofNat size)))
  headers : ∀ slots (lines : List HeaderLine), lines.length ≤ slots →
    ReadsWord (crates.parseHeaders slots) (.ok .incomplete) (trailer lines) (.ok (.complete (trailer lines).length))

/-- A chunked body with its trailers. -/
structure ChunkedText where
  chunks : List Chunk
  last : SizeLine 0
  trailers : List HeaderLine
  fits : (chunks.flatMap Chunk.data).length ≤ maxBody
  few : trailers.length ≤ maxHeaders

namespace ChunkedText

def body (text : ChunkedText) : Bytes := text.chunks.flatMap Chunk.data

def ending (last : SizeLine 0) (trailers : List HeaderLine) : Bytes := last.bytes ++ trailer trailers

def bytes (text : ChunkedText) : Bytes := text.chunks.flatMap Chunk.bytes ++ ending text.last text.trailers

end ChunkedText

namespace ChunkedBody
variable {crates : HttpCrates} (tokenise : crates.Tokenise)
include tokenise

-- the size line is not there yet
theorem decodeFrom_line {size : Nat} {line : SizeLine size} {cut : Bytes} (part : Part cut line.bytes) (seen body : Bytes) :
    decodeFrom crates (seen ++ cut) body seen.length = .ok .incomplete := by
  rw [decodeFrom, List.drop_left, (tokenise.chunkSize line).part cut part]

theorem decodeFrom_last (last : SizeLine 0) (seen body rest : Bytes) :
    decodeFrom crates (seen ++ (last.bytes ++ rest)) body seen.length =
      match trailerLen crates rest with
      | .error error => .error error
      | .ok none => .ok .incomplete
      | .ok (some length) => .ok (.complete body (seen.length + last.bytes.length + length)) := by
  have behind : (seen ++ (last.bytes ++ rest)).drop (seen.length + last.bytes.length) = rest := by
    rw [← List.append_assoc, ← List.length_append, List.drop_left]
  rw [decodeFrom, List.drop_left, (tokenise.chunkSize last).whole rest]
  simp only [behind]
  rfl

/-- The end of a chunk is not there yet, or all of it is and decoding goes on behind it. -/
theorem decodeFrom_chunk (chunk : Chunk) (seen : Bytes) {body : Bytes} (fits : body.length + chunk.data.length ≤ maxBody)
    (rest : Bytes) :
    decodeFrom crates (seen ++ (chunk.size.bytes ++ rest)) body seen.length =
      if chunk.data.length + 2 ≤ rest.length then
        if (rest.drop chunk.data.length).take 2 = crlf then
          decodeFrom crates (seen ++ (chunk.size.bytes ++ rest)) (body ++ rest.take chunk.data.length)
            (seen.length + chunk.size.bytes.length + (chunk.data.length + 2))
        else .error .malformed
      else .ok .incomplete := by
  have whole : (UInt64.ofNat chunk.data.length).toNat = chunk.data.length := by
    rw [UInt64.toNat_ofNat']
    apply Nat.mod_eq_of_lt
    have small : maxBody < 2 ^ 64 := by decide
    omega
  have positive : chunk.data.length ≠ 0 := fun empty => chunk.nonempty (List.eq_nil_of_length_eq_zero empty)
  have behind (offset : Nat) : (seen ++ (chunk.size.bytes ++ rest)).drop (seen.length + chunk.size.bytes.length + offset) =
      rest.drop offset := by
    rw [← List.append_assoc, ← List.length_append, List.drop_append, List.drop_of_length_le (by omega)]
    simp
  have length : (seen ++ (chunk.size.bytes ++ rest)).length = seen.length + chunk.size.bytes.length + rest.length := by
    simp only [List.length_append]
    omega
  rw [decodeFrom, List.drop_left, (tokenise.chunkSize chunk.size).whole rest]
  simp only [whole, positive, if_false]
  rw [if_neg (by omega), behind]
  simp only [length, Nat.add_le_add_iff_left]
  have start := behind 0
  rw [Nat.add_zero, List.drop_zero] at start
  rw [start]
  rfl

theorem reads_ending (last : SizeLine 0) {trailers : List HeaderLine} (few : trailers.length ≤ maxHeaders)
    (seen body : Bytes) :
    ReadsWord (fun part => decodeFrom crates (seen ++ part) body seen.length) (.ok .incomplete)
      (ChunkedText.ending last trailers)
      (.ok (.complete body (seen ++ ChunkedText.ending last trailers).length)) := by
  have block := (tokenise.headers maxHeaders trailers few)
  constructor
  · intro rest
    have length : trailerLen crates (trailer trailers ++ rest) = .ok (some (trailer trailers).length) := by
      rw [trailerLen, block.whole rest]
    show decodeFrom crates (seen ++ (last.bytes ++ trailer trailers ++ rest)) body seen.length = _
    rw [List.append_assoc, decodeFrom_last tokenise, length, ChunkedText.ending, ← List.append_assoc, List.length_append,
      List.length_append]
  · intro cut part
    rcases part.append_cases with short | ⟨rest, rfl, lacks⟩
    · exact decodeFrom_line tokenise short seen body
    · have waits : trailerLen crates rest = .ok none := by
        rw [trailerLen, block.part rest lacks]
      show decodeFrom crates (seen ++ (last.bytes ++ rest)) body seen.length = _
      rw [decodeFrom_last tokenise, waits]

/-- By induction along the chunks; `seen` is what was decoded before. -/
theorem reads_decodeFrom (last : SizeLine 0) {trailers : List HeaderLine} (few : trailers.length ≤ maxHeaders)
    (chunks : List Chunk) (seen : Bytes) {body : Bytes} (fits : body.length + (chunks.flatMap Chunk.data).length ≤ maxBody) :
    ReadsWord (fun part => decodeFrom crates (seen ++ part) body seen.length) (.ok .incomplete)
      (chunks.flatMap Chunk.bytes ++ ChunkedText.ending last trailers)
      (.ok (.complete (body ++ chunks.flatMap Chunk.data)
        (seen ++ (chunks.flatMap Chunk.bytes ++ ChunkedText.ending last trailers)).length)) := by
  induction chunks generalizing seen body with
  | nil =>
    rw [List.flatMap_nil, List.flatMap_nil, List.append_nil]
    exact reads_ending tokenise last few seen body
  | cons chunk chunks ih =>
    rw [List.flatMap_cons, List.length_append] at fits
    have within : body.length + chunk.data.length ≤ maxBody := by omega
    have later := @ih (seen ++ chunk.bytes) (body ++ chunk.data) (by rw [List.length_append]; omega)
    simp only [List.flatMap_cons, List.append_assoc] at later ⊢
    refine .after ?_ ?_ later
    · intro cut part
      rcases part.append_cases with short | ⟨rest, rfl, lacks⟩
      · exact decodeFrom_line tokenise short seen body
      · have short : rest.length < chunk.data.length + 2 := by
          simpa [crlf] using lacks.length_lt
        show decodeFrom crates (seen ++ (chunk.size.bytes ++ rest)) body seen.length = _
        rw [decodeFrom_chunk tokenise chunk seen within, if_neg (Nat.not_le_of_lt short)]
    · intro rest
      have inside : chunk.data.length + 2 ≤ (chunk.data ++ crlf ++ rest).length := by
        simp [crlf]
      have ends : ((chunk.data ++ crlf ++ rest).drop chunk.data.length).take 2 = crlf := by
        rw [List.append_assoc, List.drop_left]
        rfl
      have data : (chunk.data ++ crlf ++ rest).take chunk.data.length = chunk.data := by
        rw [List.append_assoc, List.take_left]
      show decodeFrom crates (seen ++ (chunk.size.bytes ++ (chunk.data ++ crlf) ++ rest)) body seen.length = _
      rw [List.append_assoc, decodeFrom_chunk tokenise chunk seen within, if_pos inside, if_pos ends, data]
      congr 1
      · simp [Chunk.bytes]
      · simp [Chunk.bytes, crlf]
        omega

/-- A chunked body is decoded as its chunks joined, whatever comes behind it, and awaited until it is whole. -/
theorem chunked_decodes (text : ChunkedText) :
    ReadsWord (decode crates) (.ok .incomplete) text.bytes (.ok (.complete text.body text.bytes.length)) := by
  have fits : ([] : Bytes).length + (text.chunks.flatMap Chunk.data).length ≤ maxBody := by
    rw [List.length_nil, Nat.zero_add]
    exact text.fits
  exact reads_decodeFrom tokenise text.last text.few text.chunks [] fits

end ChunkedBody

/-! ## A tokeniser -/

variable (line : HeaderLine)

theorem HeaderLine.text_ne_nil : line.text ≠ [] := by
  simp [text]

theorem HeaderLine.not_mem_text : 13 ∉ line.text := by
  intro member
  rcases List.mem_append.mp member with inName | inValue
  · exact absurd (line.token 13 inName) (by decide)
  · rcases List.mem_cons.mp inValue with colon | inValue
    · exact absurd colon (by decide)
    · exact absurd (line.field 13 inValue) (by decide)

theorem HeaderLine.splitOnce_text : splitOnce 0x3a line.text = some (line.name, line.value) :=
  splitOnce_append line.value fun member => absurd (line.token 0x3a member) (by decide)

def headerName (name : Bytes) : String := String.ofList (name.map fun byte => Char.ofNat byte.toNat)

-- a line in front of what was read
def addHeader (line name value : Bytes) :
    Except HttparseError (Status (Nat × Headers)) → Except HttparseError (Status (Nat × Headers))
  | .ok (.complete (length, headers)) =>
    .ok (.complete (line.length + 2 + length, (headerName name, BodyFraming.trimAscii value) :: headers))
  | other => other

/-- Goes on with the first line and what comes behind it. -/
def awaitLine {R : Type} (waiting : R) (next : Bytes → Bytes → R) (buf : Bytes) : R :=
  match splitOnceText crlf buf with
  | none => waiting
  | some (line, rest) => next line rest

section
variable {R : Type} {waiting : R} {next : Bytes → Bytes → R} {line : Bytes} (absent : 13 ∉ line)
include absent

theorem awaitLine_append (rest : Bytes) : awaitLine waiting next (line ++ crlf ++ rest) = next line rest := by
  have found : splitOnceText crlf (line ++ (crlf ++ rest)) = some (line, rest) := splitOnceText_append absent rest
  rw [awaitLine, List.append_assoc, found]

theorem awaitLine_part {cut : Bytes} (part : Part cut (line ++ crlf)) : awaitLine waiting next cut = waiting := by
  have missing : splitOnceText crlf cut = none := splitOnceText_part absent part.1 part.length_lt
  rw [awaitLine, missing]

end

/-- Lines up to the empty one as headers, and their length with it. -/
def readHeaders : Nat → Bytes → Except HttparseError (Status (Nat × Headers))
  | 0 => awaitLine (.ok .incomplete) fun line _ =>
    if line = [] then .ok (.complete (2, [])) else .error .tooManyHeaders
  | slots + 1 => awaitLine (.ok .incomplete) fun line rest =>
    if line = [] then .ok (.complete (2, []))
    else
      match splitOnce 0x3a line with
      | none => .error .other
      | some (name, value) => addHeader line name value (readHeaders slots rest)

theorem reads_readHeaders {slots : Nat} {lines : List HeaderLine} (few : lines.length ≤ slots) :
    ReadsWord (readHeaders slots) (.ok .incomplete) (trailer lines)
      (.ok (.complete ((trailer lines).length,
        lines.map fun line => (headerName line.name, BodyFraming.trimAscii line.value)))) := by
  induction lines generalizing slots with
  | nil =>
    constructor
    · intro rest
      cases slots <;> exact awaitLine_append List.not_mem_nil rest
    · intro cut part
      cases slots <;> exact awaitLine_part List.not_mem_nil part
  | cons line lines ih =>
    obtain ⟨slots, rfl⟩ : ∃ fewer, slots = fewer + 1 := Nat.exists_eq_succ_of_ne_zero (by rintro rfl; cases few)
    have later := (ih (Nat.le_of_succ_le_succ few)).map (addHeader line.text line.name line.value)
    have shape : trailer (line :: lines) = line.bytes ++ trailer lines := by
      simp [trailer]
    have length : (line.bytes ++ trailer lines).length = line.text.length + 2 + (trailer lines).length := by
      simp [HeaderLine.bytes, crlf]
      omega
    rw [shape, length, List.map_cons]
    refine .after ?_ ?_ later
    · intro cut part
      exact awaitLine_part line.not_mem_text part
    · intro rest
      rw [readHeaders, HeaderLine.bytes, awaitLine_append line.not_mem_text]
      simp only [line.text_ne_nil, if_false, line.splitOnce_text]

-- a size line, split behind its digits
def chunkSizeOf (digits : Bytes) : Bytes → Option (Status (Nat × UInt64))
  | [] => some .incomplete
  | [13] => some .incomplete
  | 13 :: 10 :: _ => if digits = [] then none else some (.complete (digits.length + 2, .ofNat (Hex.number digits)))
  | _ => none

def readChunkSize (buf : Bytes) : Option (Status (Nat × UInt64)) :=
  chunkSizeOf (buf.takeWhile Hex.isDigit) (buf.dropWhile Hex.isDigit)

theorem reads_readChunkSize {size : Nat} (line : SizeLine size) :
    ReadsWord readChunkSize (some .incomplete) line.bytes (some (.complete (line.bytes.length, UInt64.ofNat size))) := by
  have nonempty : line.digits ≠ [] := List.ne_nil_of_length_pos line.present
  constructor
  · intro rest
    have taken : (line.digits ++ 13 :: 10 :: rest).takeWhile Hex.isDigit = line.digits := by
      rw [List.takeWhile_append_of_pos line.hex, List.takeWhile_cons_of_neg (by decide), List.append_nil]
    have left : (line.digits ++ 13 :: 10 :: rest).dropWhile Hex.isDigit = 13 :: 10 :: rest := by
      rw [List.dropWhile_append_of_pos line.hex, List.dropWhile_cons_of_neg (by decide)]
    have shape : line.bytes ++ rest = line.digits ++ 13 :: 10 :: rest := by
      simp [SizeLine.bytes, crlf]
    rw [shape, readChunkSize, taken, left]
    simp [chunkSizeOf, nonempty, SizeLine.bytes, crlf, line.denotes]
  · intro cut part
    rcases part.append_cases with short | ⟨rest, rfl, lacks⟩
    · have left : cut.dropWhile Hex.isDigit = [] :=
        List.dropWhile_eq_nil_iff.mpr fun byte member => line.hex byte (short.1.subset member)
      rw [readChunkSize, left]
      rfl
    · have left : (line.digits ++ rest).dropWhile Hex.isDigit = rest.dropWhile Hex.isDigit :=
        List.dropWhile_append_of_pos line.hex
      rw [readChunkSize, left]
      rcases rest with _ | ⟨byte, _ | ⟨second, tail⟩⟩
      · rfl
      · obtain ⟨rfl, -⟩ := List.cons_prefix_cons.mp lacks.1
        rfl
      · exact absurd lacks.length_lt (by simp [crlf])

def blockLength : Status (Nat × Headers) → Status Nat
  | .complete (length, _) => .complete length
  | .incomplete => .incomplete

-- the headers behind a start line
def behindLine {H : Type} (line : Bytes) (head : Headers → H) : Status (Nat × Headers) → Status (Nat × H)
  | .complete (length, headers) => .complete (line.length + 2 + length, head headers)
  | .incomplete => .incomplete

/-- The tokeniser as a crate, with a request line in front of the headers. -/
def plainCrates : HttpCrates where
  parseRequest slots := awaitLine (.ok .incomplete) fun line rest =>
    match line.splitOn 0x20 with
    | [method, path, _] =>
      (readHeaders slots rest).map (behindLine line (⟨some (headerName method), some (headerName path), ·⟩))
    | _ => .error .other
  parseChunkSize := readChunkSize
  parseHeaders slots buf := (readHeaders slots buf).map blockLength
  buildRequest method path headers := some ⟨method, path, .http11, headers⟩

theorem plainCrates_tokenise : plainCrates.Tokenise where
  chunkSize line := reads_readChunkSize line
  headers _ _ few := (reads_readHeaders few).map (Except.map blockLength)

def mixedChunks : ChunkedText where
  chunks :=
    [⟨utf8 "hello", by decide, ⟨utf8 "005", by decide, by decide, List.all_eq_true.mp (by decide), by decide⟩⟩,
      ⟨utf8 "wonderland", by decide, ⟨utf8 "A", by decide, by decide, List.all_eq_true.mp (by decide), by decide⟩⟩]
  last := ⟨utf8 "0", by decide, by decide, List.all_eq_true.mp (by decide), by decide⟩
  trailers := [⟨utf8 "etag", utf8 " 1", by decide, List.all_eq_true.mp (by decide), List.all_eq_true.mp (by decide)⟩]
  fits := by decide
  few := by decide

theorem mixed_chunks_decode :
    ReadsWord (ChunkedBody.decode plainCrates) (.ok .incomplete) mixedChunks.bytes
      (.ok (.complete (utf8 "hellowonderland") mixedChunks.bytes.length)) := by
  have body : mixedChunks.body = utf8 "hellowonderland" := by decide
  rw [← body]
  exact ChunkedBody.chunked_decodes plainCrates_tokenise mixedChunks

end Nethernet.Http
