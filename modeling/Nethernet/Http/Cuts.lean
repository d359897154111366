import Nethernet.Foundation.Incremental
import Nethernet.Http.Client

/-! Whether the meaning of an HTTP message depends on how TCP cuts it.

Both ends look at the bytes received so far after each read. The parsers never
change their mind, but what waits for more is refused above a size that counts
the head as well as the body. -/

set_option autoImplicit false

namespace Nethernet.Http
open Foundation

/-! ## The parsers settle -/

/-- Once a prefix is complete or in error, every extension of it is the same. -/
structure HttpCrates.Settle (crates : HttpCrates) : Prop where
  parseRequest : ∀ slots, Settles (crates.parseRequest slots) (.ok .incomplete)
  parseChunkSize : Settles crates.parseChunkSize (some .incomplete)
  parseHeaders : ∀ slots, Settles (crates.parseHeaders slots) (.ok .incomplete)

structure ClientCrates.Settle (crates : ClientCrates) : Prop extends crates.toHttpCrates.Settle where
  parseResponse : ∀ slots, Settles (crates.parseResponse slots) (.ok .incomplete)

section
variable {crates : HttpCrates} (settle : crates.Settle)
include settle

theorem settles_trailerLen : Settles (ChunkedBody.trailerLen crates) (.ok none) := by
  intro buf more answered
  have known : crates.parseHeaders maxHeaders buf ≠ .ok .incomplete := by
    intro waits
    apply answered
    rw [ChunkedBody.trailerLen, waits]
  rw [ChunkedBody.trailerLen, settle.parseHeaders maxHeaders buf more known, ChunkedBody.trailerLen]

omit settle in
theorem le_length_append {buf : Bytes} {count : Nat} (within : count ≤ buf.length) (more : Bytes) :
    count ≤ (buf ++ more).length := by
  rw [List.length_append]
  omega

-- bytes that are there are not moved by those that come behind
omit settle in
theorem take_drop_append {buf : Bytes} {start count : Nat} (within : start + count ≤ buf.length) (more : Bytes) :
    ((buf ++ more).drop start).take count = (buf.drop start).take count := by
  rw [List.drop_append_of_le_length (by omega), List.take_append_of_le_length (by rw [List.length_drop]; omega)]

/-- By induction along the chunks that are there. -/
theorem decodeFrom_append (more : Bytes) {buf body : Bytes} {start : Nat}
    (answered : ChunkedBody.decodeFrom crates buf body start ≠ .ok .incomplete) :
    ChunkedBody.decodeFrom crates (buf ++ more) body start = ChunkedBody.decodeFrom crates buf body start := by
  fun_induction ChunkedBody.decodeFrom crates buf body start with
  | case1 body start malformed =>
    have line := (settle.parseChunkSize.drop start).eq malformed nofun more
    rw [ChunkedBody.decodeFrom, line]
  | case2 => exact absurd rfl answered
  | case3 body start lineLen size sized chunk last error bad =>
    have line := (settle.parseChunkSize.drop start).eq sized nofun more
    have trailer := ((settles_trailerLen settle).drop chunk).eq bad nofun more
    rw [ChunkedBody.decodeFrom, line]
    simp only [last, if_true]
    rw [trailer]
  | case4 => exact absurd rfl answered
  | case5 body start lineLen size sized chunk last length complete =>
    have line := (settle.parseChunkSize.drop start).eq sized nofun more
    have trailer := ((settles_trailerLen settle).drop chunk).eq complete nofun more
    rw [ChunkedBody.decodeFrom, line]
    simp only [last, if_true]
    rw [trailer]
  | case6 body start lineLen size sized nonzero large =>
    have line := (settle.parseChunkSize.drop start).eq sized nofun more
    rw [ChunkedBody.decodeFrom, line]
    simp only [nonzero, large, if_false, if_true]
  | case7 body start lineLen size sized chunk nonzero small here ends ih =>
    have line := (settle.parseChunkSize.drop start).eq sized nofun more
    rw [ChunkedBody.decodeFrom, line]
    simp only [nonzero, small, if_false]
    rw [if_pos (le_length_append here more), take_drop_append (by omega), if_pos ends, take_drop_append (by omega)]
    exact ih answered
  | case8 body start lineLen size sized chunk nonzero small here ends =>
    have line := (settle.parseChunkSize.drop start).eq sized nofun more
    rw [ChunkedBody.decodeFrom, line]
    simp only [nonzero, small, if_false]
    rw [if_pos (le_length_append here more), take_drop_append (by omega), if_neg ends]
  | case9 => exact absurd rfl answered

theorem settles_read (framing : BodyFraming) : Settles (framing.read crates) (.ok none) := by
  intro buf more answered
  cases framing with
  | length count =>
    have within : count ≤ buf.length := by
      by_contra short
      simp [BodyFraming.read, short] at answered
    simp only [BodyFraming.read, within, le_length_append within more, if_true]
    rw [List.take_append_of_le_length within]
  | chunked =>
    have known : ChunkedBody.decode crates buf ≠ .ok .incomplete := by
      intro waits
      simp [BodyFraming.read, waits, Except.map] at answered
    simp only [BodyFraming.read, ChunkedBody.decode]
    rw [decodeFrom_append settle more known]

end

/-! ## Requests -/

/-- What a reader makes of the body behind the headers. -/
def finish {E M : Type} (ofFraming : FramingError → E) (build : Bytes → Except E M) :
    Except FramingError (Option (Bytes × Nat)) → Except E (Status M)
  | .error error => .error (ofFraming error)
  | .ok none => .ok .incomplete
  | .ok (some (body, _)) => (build body).map .complete

theorem finish_eq {E M : Type} (ofFraming : FramingError → E) (build : Bytes → Except E M)
    (read : Except FramingError (Option (Bytes × Nat))) :
    (do match ← read.mapError ofFraming with
      | none => return .incomplete
      | some (body, _) => return .complete (← build body)) = finish ofFraming build read := by
  rcases read with error | (_ | ⟨body, length⟩)
  · rfl
  · rfl
  · rfl

section
variable {crates : HttpCrates}

def RequestReader.behind (crates : HttpCrates) (head : Except HttparseError (Status (Nat × RawRequest))) (buf : Bytes) :
    Except RequestError (Status (Request Bytes)) :=
  match head with
  | .error error => .error (tooManyOr error)
  | .ok .incomplete => .ok .incomplete
  | .ok (.complete (headerLen, parsed)) =>
    if parsed.headers.any (isHeader BodyFraming.transferEncoding) then
      .error (if parsed.headers.any (isHeader BodyFraming.contentLength) then .malformed else .lengthRequired)
    else
      match BodyFraming.of parsed.headers with
      | .error error => .error (.ofFraming error)
      | .ok framing =>
        finish .ofFraming (build crates parsed) ((framing.getD (.length 0)).read crates (buf.drop headerLen))

theorem RequestReader.parse_eq (buf : Bytes) :
    parse crates buf = behind crates (crates.parseRequest maxHeaders buf) buf := by
  unfold parse behind
  rcases crates.parseRequest maxHeaders buf with error | (⟨headerLen, parsed⟩ | _)
  · rfl
  · show (if _ then _ else _) = if _ then _ else _
    split
    · rfl
    · show (Except.mapError _ (BodyFraming.of parsed.headers) >>= _) = _
      cases BodyFraming.of parsed.headers with
      | error error => rfl
      | ok framing => exact finish_eq ..
  · rfl

theorem RequestReader.settles_behind (settle : crates.Settle) (head : Except HttparseError (Status (Nat × RawRequest))) :
    Settles (behind crates head) (.ok .incomplete) := by
  rcases head with error | (⟨headerLen, parsed⟩ | _)
  · exact .const _
  · unfold behind
    dsimp only
    split
    · exact .const _
    · cases BodyFraming.of parsed.headers with
      | error error => exact .const _
      | ok framing => exact ((settles_read settle (framing.getD (.length 0))).drop headerLen).map (finish _ _)
  · exact .const _

theorem RequestReader.settles_parse (settle : crates.Settle) : Settles (parse crates) (.ok .incomplete) := by
  rw [funext parse_eq]
  exact (settle.parseRequest maxHeaders).after (behind crates) (fun _ => rfl) (settles_behind settle)

end

/-! ## Responses -/

section
variable {crates : ClientCrates}

def ResponseReader.behind (crates : ClientCrates) (head : Except HttparseError (Status (Nat × RawResponse))) (buf : Bytes) :
    Except ResponseError (Status Reply) :=
  match head with
  | .error error => .error (tooManyOr error)
  | .ok .incomplete => .ok .incomplete
  | .ok (.complete (headerLen, parsed)) =>
    match BodyFraming.of parsed.headers with
    | .error error => .error (.ofFraming error)
    | .ok none => .error .unboundedBody
    | .ok (some framing) =>
      finish .ofFraming (build crates parsed) (framing.read crates.toHttpCrates (buf.drop headerLen))

theorem ResponseReader.parse_eq (buf : Bytes) :
    parse crates buf = behind crates (crates.parseResponse maxHeaders buf) buf := by
  unfold parse behind
  rcases crates.parseResponse maxHeaders buf with error | (⟨headerLen, parsed⟩ | _)
  · rfl
  · show (Except.mapError _ (BodyFraming.of parsed.headers) >>= _) = _
    dsimp only
    rcases BodyFraming.of parsed.headers with error | (_ | framing)
    · rfl
    · rfl
    · exact finish_eq ..
  · rfl

theorem ResponseReader.settles_behind (settle : crates.Settle) (head : Except HttparseError (Status (Nat × RawResponse))) :
    Settles (behind crates head) (.ok .incomplete) := by
  rcases head with error | (⟨headerLen, parsed⟩ | _)
  · exact .const _
  · unfold behind
    dsimp only
    rcases BodyFraming.of parsed.headers with error | (_ | framing)
    · exact .const _
    · exact .const _
    · exact ((settles_read settle.toSettle framing).drop headerLen).map (finish _ _)
  · exact .const _

theorem ResponseReader.settles_parse (settle : crates.Settle) : Settles (parse crates) (.ok .incomplete) := by
  rw [funext parse_eq]
  exact (settle.parseResponse maxHeaders).after (behind crates) (fun _ => rfl) (settles_behind settle)

end

/-! ## Verdicts -/

inductive RequestVerdict where
  | asked (request : Request String)
  | refused (status : StatusCode)

inductive JoinVerdict where
  | done (code : UInt16) (body : String)
  | failed

def concludeRequest : Except RequestError (Status (Request Bytes)) → Option RequestVerdict
  | .ok (.complete request) =>
    match request.text with
    | none => some (.refused .badRequest)
    | some request => some (.asked request)
  | .ok .incomplete => none
  | .error error => some (.refused (TcpConn.refusal error))

def concludeResponse : Except ResponseError (Status Reply) → Option JoinVerdict
  | .ok (.complete reply) =>
    match fromUtf8 reply.body with
    | .ok body => some (.done reply.status body)
    | .error _ => some .failed
  | .ok .incomplete => none
  | .error _ => some .failed

/-- What the server's loop makes of the bytes received so far. -/
def judgeRequest (crates : HttpCrates) : Bytes → Option RequestVerdict :=
  limited (fun buf => concludeRequest (RequestReader.parse crates buf)) maxBody (.refused .payloadTooLarge)

/-- What the client makes of the bytes received so far. -/
def judgeResponse (crates : ClientCrates) : Bytes → Option JoinVerdict :=
  limited (fun buf => concludeResponse (ResponseReader.parse crates buf)) maxBody .failed

variable {result : Except RequestError (Status (Request Bytes))}

theorem concludeRequest_eq_none : concludeRequest result = none ↔ result = .ok .incomplete := by
  rcases result with error | (request | _)
  · simp [concludeRequest]
  · rw [concludeRequest]
    split <;> simp
  · simp [concludeRequest]

theorem concludeRequest_eq_tooLarge :
    concludeRequest result = some (.refused .payloadTooLarge) ↔ result = .error .sizeExceeded := by
  rcases result with error | (request | _)
  · cases error <;> simp [concludeRequest, TcpConn.refusal]
  · rw [concludeRequest]
    split <;> simp
  · simp [concludeRequest]

theorem concludeResponse_eq_none {result : Except ResponseError (Status Reply)} :
    concludeResponse result = none ↔ result = .ok .incomplete := by
  rcases result with error | (reply | _)
  · simp [concludeResponse]
  · rw [concludeResponse]
    split <;> simp
  · simp [concludeResponse]

/-! ## The loops over one connection -/

-- a plain socket with the reads that are to come
def cutWire : Wire where
  Socket := List Bytes
  read
    | [] => ([], .ok (.idle, []))
    | read :: rest => (rest, .ok (.received, read))
  write held data := (held, .ok data.length)
  flush held := (held, .ok ())
  finish held := (held, .ok ())
  hasPendingOutput _ := false
  awaitingSession _ := false
  beginSession held _ := (held, .ok ())

variable {conn : TcpConn cutWire}

namespace TcpConn
variable {crates : HttpCrates}

theorem readRequest_eq {wire : Wire} {conn : TcpConn wire} (fresh : conn.requested = false) :
    conn.readRequest crates =
      match judgeRequest crates conn.stream.inbound with
      | none => (conn, .kept)
      | some (.refused status) => (conn.refuse status, .kept)
      | some (.asked request) => ({ conn.clearInbound with requested := true }, .asked request) := by
  unfold readRequest judgeRequest
  rw [fresh, if_neg nofun]
  cases parsed : RequestReader.parse crates conn.stream.inbound with
  | error error => rw [limited_of_some (congrArg concludeRequest parsed)]
  | ok status =>
    cases status with
    | complete request =>
      cases text : request.text with
      | none =>
        have refused : concludeRequest (.ok (.complete request)) = some (.refused .badRequest) := by
          simp only [concludeRequest, text]
        rw [limited_of_some ((congrArg concludeRequest parsed).trans refused)]
        simp only [text]
      | some read =>
        have asked : concludeRequest (.ok (.complete request)) = some (.asked read) := by
          simp only [concludeRequest, text]
        rw [limited_of_some ((congrArg concludeRequest parsed).trans asked)]
        simp only [text]
    | incomplete =>
      rw [limited_of_none (congrArg concludeRequest parsed)]
      dsimp only
      split <;> rfl

/-- The server turns to the connection until it has asked or is to be closed. -/
def serve {wire : Wire} (crates : HttpCrates) (conn : TcpConn wire) : List Instant → TcpConn wire × Verdict
  | [] => (conn, .kept)
  | now :: later =>
    match conn.pump crates now with
    | (conn, .kept) => if conn.closeAfterWrite then (conn, .kept) else conn.serve crates later
    | ended => ended

/-- The connection has come to the verdict. -/
def Shows {wire : Wire} (result : TcpConn wire × Verdict) : Option RequestVerdict → Prop
  | none => result.2 = .kept ∧ result.1.closeAfterWrite = false
  | some (.refused status) => result.2 = .kept ∧ result.1.closeAfterWrite = true ∧
      result.1.stream.outbound = ResponseWriter.encode ⟨status, [], ""⟩
  | some (.asked request) => result.2 = .asked request

/-- Nothing was asked or answered on the connection yet. -/
structure Fresh {wire : Wire} (conn : TcpConn wire) : Prop where
  requested : conn.requested = false
  unclosed : conn.closeAfterWrite = false
  silent : conn.stream.outbound = []

-- a turn takes one read
theorem pump_cut (fresh : Fresh conn) {read : Bytes} {rest : List Bytes} (held : conn.stream.socket = read :: rest)
    (now : Instant) :
    conn.pump crates now = { conn with
      stream := { conn.stream with socket := rest, inbound := conn.stream.inbound ++ read }
      lastActive := now : TcpConn cutWire }.readRequest crates := by
  have dry : conn.stream.drain = (conn.stream, .ok .empty) := by
    rw [HttpStream.drain, fresh.silent]
    rfl
  have filled : conn.stream.fill =
      ({ conn.stream with socket := rest, inbound := conn.stream.inbound ++ read }, .ok .received) := by
    rw [HttpStream.fill, held]
    rfl
  have unclosed : (!conn.stream.hasOutbound && conn.closeAfterWrite) = false := by
    rw [fresh.unclosed, Bool.and_false]
  rw [pump, unclosed, if_neg nofun, dry]
  show conn.receive crates now = _
  rw [receive, filled]
  rfl

theorem serve_cut (fresh : Fresh conn) {times : List Instant} (turns : times.length = List.length conn.stream.socket) :
    Shows (conn.serve crates times) (firstVerdict (judgeRequest crates) conn.stream.inbound conn.stream.socket) := by
  induction times generalizing conn with
  | nil =>
    have none : conn.stream.socket = [] := List.length_eq_zero_iff.mp turns.symm
    rw [none]
    exact ⟨rfl, fresh.unclosed⟩
  | cons now later ih =>
    obtain ⟨read, rest, held⟩ : ∃ read rest, conn.stream.socket = read :: rest :=
      List.exists_cons_of_length_eq_add_one turns.symm
    let next : TcpConn cutWire := { conn with
      stream := { conn.stream with socket := rest, inbound := conn.stream.inbound ++ read }, lastActive := now }
    have turn : conn.pump crates now = next.readRequest crates := pump_cut fresh held now
    have still : Fresh next := ⟨fresh.requested, fresh.unclosed, fresh.silent⟩
    rw [serve, turn, readRequest_eq still.requested, held]
    cases judged : judgeRequest crates (conn.stream.inbound ++ read) with
    | none =>
      rw [firstVerdict_of_none judged]
      show Shows (if next.closeAfterWrite then _ else _) _
      rw [still.unclosed, if_neg nofun]
      refine ih still ?_
      rw [held] at turns
      exact Nat.succ_injective turns
    | some verdict =>
      rw [firstVerdict_of_some judged]
      cases verdict with
      | asked request => rfl
      | refused status =>
        refine ⟨rfl, rfl, ?_⟩
        show conn.stream.outbound ++ _ = _
        rw [fresh.silent, List.nil_append]

end TcpConn

section
variable {crates : ClientCrates}

theorem readResponse_eq {wire : Wire} (stream : HttpStream wire) :
    readResponse crates stream =
      match judgeResponse crates stream.inbound with
      | none => .pending (.receiving stream)
      | some (.done code body) => .done code body
      | some .failed => .failed := by
  unfold readResponse judgeResponse
  cases parsed : ResponseReader.parse crates stream.inbound with
  | error error => rw [limited_of_some (congrArg concludeResponse parsed)]
  | ok status =>
    cases status with
    | complete reply =>
      cases text : fromUtf8 reply.body with
      | error error =>
        have failed : concludeResponse (.ok (.complete reply)) = some .failed := by
          simp only [concludeResponse, text]
        rw [limited_of_some ((congrArg concludeResponse parsed).trans failed)]
        simp only [text]
      | ok body =>
        have done : concludeResponse (.ok (.complete reply)) = some (.done reply.status body) := by
          simp only [concludeResponse, text]
        rw [limited_of_some ((congrArg concludeResponse parsed).trans done)]
        simp only [text]
    | incomplete =>
      rw [limited_of_none (congrArg concludeResponse parsed)]
      dsimp only
      split <;> rfl

theorem driveJoins_cut (stream : HttpStream cutWire) :
    driveJoins crates (List.length stream.socket) (.receiving stream) =
      match firstVerdict (judgeResponse crates) stream.inbound stream.socket with
      | none => .pending (.receiving { stream with socket := [], inbound := stream.inbound ++ List.flatten stream.socket })
      | some (.done code body) => .done code body
      | some .failed => .failed := by
  obtain ⟨reads, inbound, outbound, written⟩ := stream
  induction (reads : List Bytes) generalizing inbound with
  | nil =>
    show JoinStep.pending _ = JoinStep.pending _
    rw [List.flatten_nil, List.append_nil]
  | cons read rest ih =>
    have turn : driveJoin crates (.receiving (⟨read :: rest, inbound, outbound, written⟩ : HttpStream cutWire)) =
        readResponse crates ⟨rest, inbound ++ read, outbound, written⟩ := rfl
    show driveJoins crates (List.length rest + 1) _ = _
    rw [driveJoins, turn, readResponse_eq]
    cases judged : judgeResponse crates (inbound ++ read) with
    | none =>
      rw [firstVerdict_of_none judged]
      have later := ih (inbound ++ read)
      rw [List.append_assoc] at later
      exact later
    | some verdict =>
      rw [firstVerdict_of_some judged]
      cases verdict <;> rfl

end

/-- How a message is cut does not matter to the server exactly if the request is never complete, or is
settled by the first byte over the limit, or is refused for its size anyhow; nor to the client exactly if
the response is never complete, or is settled by then, or fails anyhow. -/
theorem cut_blind_iff {crates : ClientCrates} (settle : crates.Settle) (stream : Bytes) :
    (CutBlind (judgeRequest crates.toHttpCrates) stream ↔
      RequestReader.parse crates.toHttpCrates stream = .ok .incomplete ∨
      RequestReader.parse crates.toHttpCrates (stream.take (maxBody + 1)) ≠ .ok .incomplete ∨
      RequestReader.parse crates.toHttpCrates stream = .error .sizeExceeded) ∧
    (CutBlind (judgeResponse crates) stream ↔
      ResponseReader.parse crates stream = .ok .incomplete ∨
      ResponseReader.parse crates (stream.take (maxBody + 1)) ≠ .ok .incomplete ∨
      concludeResponse (ResponseReader.parse crates stream) = some .failed) := by
  constructor
  · have settles := (RequestReader.settles_parse settle.toSettle).map concludeRequest
    rw [judgeRequest, settles.cutBlind_limited_iff, concludeRequest_eq_none, concludeRequest_eq_tooLarge,
      Option.isSome_iff_ne_none, Ne, concludeRequest_eq_none]
  · have settles := (ResponseReader.settles_parse settle).map concludeResponse
    rw [judgeResponse, settles.cutBlind_limited_iff, concludeResponse_eq_none, Option.isSome_iff_ne_none, Ne,
      concludeResponse_eq_none]

/-! ## A body of the full length -/

def fullHead : Bytes := utf8 "POST /join HTTP/1.1\r\ncontent-length: 1048576\r\n\r\n"

def fullHeaders : Headers := [("content-length", utf8 "1048576")]

-- the crates on messages with that head
def fullCrates : ClientCrates where
  parseRequest _ buf :=
    if fullHead <+: buf then .ok (.complete (fullHead.length, ⟨some "POST", some "/join", fullHeaders⟩))
    else .ok .incomplete
  parseChunkSize _ := some .incomplete
  parseHeaders _ _ := .ok .incomplete
  buildRequest method path headers := some ⟨method, path, .http11, headers⟩
  parseResponse _ _ := .ok .incomplete
  buildResponse code headers := some (code, headers)

theorem fullCrates_parseRequest (slots : Nat) (buf : Bytes) : fullCrates.parseRequest slots buf =
    if fullHead <+: buf then .ok (.complete (fullHead.length, ⟨some "POST", some "/join", fullHeaders⟩))
    else .ok .incomplete := rfl

theorem fullCrates_settle : fullCrates.Settle where
  parseRequest := by
    intro slots buf more answered
    have head : fullHead <+: buf := by
      by_contra other
      exact answered (if_neg other)
    exact (if_pos (head.trans (List.prefix_append buf more))).trans (if_pos head).symm
  parseChunkSize := .const _
  parseHeaders _ := .const _
  parseResponse _ := .const _

theorem parse_short : RequestReader.parse fullCrates.toHttpCrates [80, 79] = .ok .incomplete := by
  have none : ¬fullHead <+: [80, 79] := by decide +kernel
  rw [RequestReader.parse_eq, fullCrates_parseRequest, if_neg none]
  rfl

/-- A message too short to have its head waits, however it is cut. -/
theorem short_cut_blind : fullCrates.Settle ∧ CutBlind (judgeRequest fullCrates.toHttpCrates) [80, 79] :=
  ⟨fullCrates_settle, (cut_blind_iff fullCrates_settle [80, 79]).1.mpr (.inl parse_short)⟩

theorem lengthOf_full : BodyFraming.lengthOf (utf8 "1048576") = .ok maxBody := by
  have count : parseUnsigned (2 ^ 64) (trim "1048576".toList) = .ok maxBody := by decide +kernel
  rw [BodyFraming.lengthOf, fromUtf8_utf8]
  dsimp only
  rw [count]
  exact if_neg (Nat.lt_irrefl _)

theorem parse_full (part : Bytes) :
    RequestReader.parse fullCrates.toHttpCrates (fullHead ++ part) =
      if maxBody ≤ part.length then .ok (.complete ⟨⟨"POST", "/join", .http11, fullHeaders⟩, part.take maxBody⟩)
      else .ok .incomplete := by
  have plain : fullHeaders.any (isHeader BodyFraming.transferEncoding) = false := by decide +kernel
  have framed : BodyFraming.of fullHeaders = .ok (some (.length maxBody)) := by
    have length : Headers.get fullHeaders BodyFraming.contentLength = some (utf8 "1048576") := by decide +kernel
    have encoding : Headers.get fullHeaders BodyFraming.transferEncoding = none := by decide +kernel
    rw [BodyFraming.of, length, encoding]
    dsimp only
    rw [lengthOf_full]
    rfl
  rw [RequestReader.parse_eq, fullCrates_parseRequest, if_pos (List.prefix_append fullHead part)]
  simp only [RequestReader.behind, plain, framed, Option.getD_some, BodyFraming.read, List.drop_left,
    Bool.false_eq_true, if_false]
  by_cases long : maxBody ≤ part.length
  · rw [if_pos long, if_pos long]
    rfl
  · rw [if_neg long, if_neg long]
    rfl

theorem judge_full {text : String} (length : (utf8 text).length = maxBody) :
    judgeRequest fullCrates.toHttpCrates (fullHead ++ utf8 text) =
      some (.asked ⟨⟨"POST", "/join", .http11, fullHeaders⟩, text⟩) := by
  have whole : (utf8 text).take maxBody = utf8 text := List.take_of_length_le length.le
  have parsed := parse_full (utf8 text)
  rw [if_pos length.ge, whole] at parsed
  rw [judgeRequest, limited_of_some]
  show concludeRequest (RequestReader.parse _ _) = _
  rw [parsed]
  simp only [concludeRequest, Request.text, fromUtf8_utf8]

/-- All but the last bytes of the body are there, and with the head they are over the limit. -/
theorem judge_part {part : Bytes} (short : part.length < maxBody) (beyond : maxBody < fullHead.length + part.length) :
    judgeRequest fullCrates.toHttpCrates (fullHead ++ part) = some (.refused .payloadTooLarge) := by
  have parsed := parse_full part
  rw [if_neg (by omega)] at parsed
  rw [judgeRequest, limited_of_none, List.length_append, if_pos beyond]
  show concludeRequest (RequestReader.parse _ _) = _
  rw [parsed]
  rfl

theorem length_utf8_replicate (count : Nat) : (utf8 (String.ofList (List.replicate count 'a'))).length = count := by
  rw [utf8_eq_flatMap, String.toList_ofList]
  induction count with
  | zero => rfl
  | succ count ih =>
    rw [List.replicate_succ, List.flatMap_cons, List.length_append, ih, Nat.add_comm]
    rfl

/-- A request whose body has just the allowed length is taken when it comes in one read, and refused as too
large when its last byte comes in a read of its own. -/
theorem full_body_cut : fullCrates.Settle ∧
    ∃ (text : String) (most last : Bytes), (utf8 text).length = maxBody ∧ most ++ last = fullHead ++ utf8 text ∧
      IsCut (fullHead ++ utf8 text) [fullHead ++ utf8 text] ∧ IsCut (fullHead ++ utf8 text) [most, last] ∧
      firstVerdict (judgeRequest fullCrates.toHttpCrates) [] [fullHead ++ utf8 text] =
        some (.asked ⟨⟨"POST", "/join", .http11, fullHeaders⟩, text⟩) ∧
      firstVerdict (judgeRequest fullCrates.toHttpCrates) [] [most, last] = some (.refused .payloadTooLarge) := by
  have head : 2 ≤ fullHead.length := by decide +kernel
  have positive : 0 < maxBody := by decide
  obtain ⟨text, length⟩ : ∃ text, (utf8 text).length = maxBody := ⟨_, length_utf8_replicate maxBody⟩
  have short : ((utf8 text).take (maxBody - 1)).length = maxBody - 1 := by
    rw [List.length_take, length]
    omega
  have rest : ((utf8 text).drop (maxBody - 1)).length = 1 := by
    rw [List.length_drop, length]
    omega
  have joined : (fullHead ++ (utf8 text).take (maxBody - 1)) ++ (utf8 text).drop (maxBody - 1) = fullHead ++ utf8 text := by
    rw [List.append_assoc, List.take_append_drop]
  have begun : ∀ part, fullHead ++ part ≠ [] := fun part => List.append_ne_nil_of_left_ne_nil
    (List.ne_nil_of_length_pos (by omega)) part
  have cut := isCut_two (begun ((utf8 text).take (maxBody - 1)))
    (List.ne_nil_of_length_pos (l := (utf8 text).drop (maxBody - 1)) (by omega))
  rw [joined] at cut
  refine ⟨fullCrates_settle, text, _, _, length, joined, isCut_whole (begun _), cut, ?_, ?_⟩
  · rw [firstVerdict_whole]
    exact judge_full length
  · exact firstVerdict_of_some (judge_part (by omega) (by omega)) _

end Nethernet.Http
