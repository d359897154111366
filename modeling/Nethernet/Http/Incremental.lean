import Nethernet.Foundation.Outcome
import Nethernet.Http.Chunks
import Nethernet.Http.Cuts

/-! Decoding chunks with every slice and every subtraction checked. The decoder does
nothing that would abort, and neither it nor the readers above it change their mind. -/

set_option autoImplicit false

namespace Nethernet.Http
open Foundation

/-- The results of `httparse` are within the buffer, and a size line is not empty. -/
structure HttpCrates.InRange (crates : HttpCrates) : Prop where
  chunkSize : ∀ {buf lineLen size}, crates.parseChunkSize buf = some (.complete (lineLen, size)) →
    1 ≤ lineLen ∧ lineLen ≤ buf.length
  headers : ∀ {slots buf length}, crates.parseHeaders slots buf = .ok (.complete length) → length ≤ buf.length

-- `&buf[start..]` and `&buf[start..stop]`
def sliceFrom (buf : Bytes) (start : Nat) : Outcome FramingError Bytes :=
  if start ≤ buf.length then .ok (buf.drop start) else .aborted

def slice (buf : Bytes) (start stop : Nat) : Outcome FramingError Bytes :=
  if start ≤ stop ∧ stop ≤ buf.length then .ok ((buf.drop start).take (stop - start)) else .aborted

-- a subtraction that must not go below zero
def subtract (left right : Nat) : Outcome FramingError Nat := if right ≤ left then .ok (left - right) else .aborted

variable {buf : Bytes} {start : Nat}

theorem sliceFrom_eq (within : start ≤ buf.length) : sliceFrom buf start = .ok (buf.drop start) :=
  if_pos within

theorem slice_eq {stop : Nat} (ordered : start ≤ stop) (within : stop ≤ buf.length) :
    slice buf start stop = .ok ((buf.drop start).take (stop - start)) :=
  if_pos ⟨ordered, within⟩

theorem subtract_eq {left right : Nat} (within : right ≤ left) : subtract left right = .ok (left - right) := if_pos within

namespace ChunkedBody
variable (crates : HttpCrates)

/-- `ChunkedBody::decode` from an index on, as the source computes it. -/
def decodeChecked (buf body : Bytes) (start : Nat) : Outcome FramingError ChunkedBody := do
  match crates.parseChunkSize (← sliceFrom buf start) with
  | none => .err .malformed
  | some .incomplete => return .incomplete
  | some (.complete (lineLen, size)) =>
    let chunk := start + lineLen
    if size.toNat = 0 then
      match ← Outcome.ofExcept (trailerLen crates (← sliceFrom buf chunk)) with
      | some trailer => return .complete body (chunk + trailer)
      | none => return .incomplete
    else
      let room ← subtract maxBody body.length
      if room < size.toNat then .err .sizeExceeded
      else if chunk + (size.toNat + 2) ≤ buf.length then
        let chunkEnd := chunk + (size.toNat + 2)
        if (← slice buf (chunkEnd - 2) chunkEnd) = crlf then
          decodeChecked buf (body ++ (← slice buf chunk (chunkEnd - 2))) chunkEnd
        else .err .malformed
      else return .incomplete
termination_by buf.length - start

variable {crates}

-- the size line ends within the buffer
theorem line_within (inRange : crates.InRange) {lineLen : Nat} {size : UInt64} (within : start ≤ buf.length)
    (sized : crates.parseChunkSize (buf.drop start) = some (.complete (lineLen, size))) :
    start + lineLen ≤ buf.length := by
  have short := (inRange.chunkSize sized).2
  rw [List.length_drop] at short
  omega

-- the end of a chunk and its data
theorem chunk_slices {chunk size : Nat} (here : chunk + (size + 2) ≤ buf.length) :
    slice buf (chunk + (size + 2) - 2) (chunk + (size + 2)) = .ok ((buf.drop (chunk + size)).take 2) ∧
      slice buf chunk (chunk + (size + 2) - 2) = .ok ((buf.drop chunk).take size) := by
  constructor
  · have start : chunk + (size + 2) - 2 = chunk + size := by omega
    have count : chunk + (size + 2) - (chunk + size) = 2 := by omega
    rw [slice_eq (by omega) here, start, count]
  · have count : chunk + (size + 2) - 2 - chunk = size := by omega
    rw [slice_eq (by omega) (by omega), count]

/-- No slice is out of range and the subtraction does not go below zero. -/
theorem decodeChecked_eq (inRange : crates.InRange) {body : Bytes} (within : start ≤ buf.length)
    (small : body.length ≤ maxBody) :
    decodeChecked crates buf body start = .ofExcept (decodeFrom crates buf body start) := by
  fun_induction decodeFrom crates buf body start with
  | case1 body start malformed =>
    rw [decodeChecked, sliceFrom_eq within]
    simp [malformed, Outcome.ofExcept]
  | case2 body start waits =>
    rw [decodeChecked, sliceFrom_eq within]
    simp [waits, Outcome.ofExcept, pure]
  | case3 body start lineLen size sized chunk last error bad =>
    have there := line_within inRange within sized
    have bad : trailerLen crates (buf.drop (start + lineLen)) = .error error := bad
    rw [decodeChecked, sliceFrom_eq within]
    simp [sized, last, sliceFrom_eq there, bad, Outcome.ofExcept]
  | case4 body start lineLen size sized chunk last waits =>
    have there := line_within inRange within sized
    have waits : trailerLen crates (buf.drop (start + lineLen)) = .ok none := waits
    rw [decodeChecked, sliceFrom_eq within]
    simp [sized, last, sliceFrom_eq there, waits, Outcome.ofExcept, pure]
  | case5 body start lineLen size sized chunk last length complete =>
    have there := line_within inRange within sized
    have complete : trailerLen crates (buf.drop (start + lineLen)) = .ok (some length) := complete
    rw [decodeChecked, sliceFrom_eq within]
    simp [sized, last, sliceFrom_eq there, complete, Outcome.ofExcept, pure, chunk]
  | case6 body start lineLen size sized nonzero large =>
    rw [decodeChecked, sliceFrom_eq within]
    simp [sized, nonzero, subtract_eq small, large, Outcome.ofExcept]
  | case7 body start lineLen size sized chunk nonzero fits here ends ih =>
    have grown : (body ++ (buf.drop chunk).take size.toNat).length ≤ maxBody := by
      rw [List.length_append, List.length_take]
      omega
    have later := ih here grown
    have here : start + lineLen + (size.toNat + 2) ≤ buf.length := here
    obtain ⟨tail, data⟩ := chunk_slices here
    rw [decodeChecked, sliceFrom_eq within]
    simp only [Outcome.ok_bind, sized, nonzero, if_false, subtract_eq small, fits, here, if_true, tail, data]
    exact (if_pos ends).trans later
  | case8 body start lineLen size sized chunk nonzero fits here ends =>
    have here : start + lineLen + (size.toNat + 2) ≤ buf.length := here
    obtain ⟨tail, -⟩ := chunk_slices here
    rw [decodeChecked, sliceFrom_eq within]
    simp only [Outcome.ok_bind, sized, nonzero, if_false, subtract_eq small, fits, here, if_true, tail]
    exact if_neg ends
  | case9 body start lineLen size sized chunk nonzero fits away =>
    have away : ¬start + lineLen + (size.toNat + 2) ≤ buf.length := away
    rw [decodeChecked, sliceFrom_eq within]
    simp only [Outcome.ok_bind, sized, nonzero, if_false, subtract_eq small, fits, away]
    rfl

theorem decodeFrom_bounded (inRange : crates.InRange) {body : Bytes} (within : start ≤ buf.length)
    (small : body.length ≤ maxBody) {result : Bytes} {consumed : Nat}
    (decoded : decodeFrom crates buf body start = .ok (.complete result consumed)) :
    result.length ≤ maxBody ∧ consumed ≤ buf.length := by
  fun_induction decodeFrom crates buf body start with
  | case5 body start lineLen size sized chunk last length complete =>
    cases decoded
    have there : chunk ≤ buf.length := line_within inRange within sized
    refine ⟨small, ?_⟩
    unfold trailerLen at complete
    split at complete
    · rename_i parsed
      cases complete
      have short := inRange.headers parsed
      rw [List.length_drop] at short
      omega
    · cases complete
    · cases complete
    · cases complete
  | case7 body start lineLen size sized chunk nonzero fits here ends ih =>
    have grown : (body ++ (buf.drop chunk).take size.toNat).length ≤ maxBody := by
      rw [List.length_append, List.length_take]
      omega
    exact ih here grown decoded
  | _ => cases decoded

end ChunkedBody

/-! ## Any buffer -/

/-- The decoder runs to its end without aborting, its result is bounded, and results do not change. -/
structure Incremental (crates : ClientCrates) (buf : Bytes) : Prop where
  checked : ChunkedBody.decodeChecked crates.toHttpCrates buf [] 0 =
    .ofExcept (ChunkedBody.decode crates.toHttpCrates buf)
  runs : ChunkedBody.decodeChecked crates.toHttpCrates buf [] 0 ≠ .aborted
  bounded : ∀ body consumed, ChunkedBody.decode crates.toHttpCrates buf = .ok (.complete body consumed) →
    body.length ≤ maxBody ∧ consumed ≤ buf.length
  chunks : ChunkedBody.decode crates.toHttpCrates buf ≠ .ok .incomplete → ∀ more,
    ChunkedBody.decode crates.toHttpCrates (buf ++ more) = ChunkedBody.decode crates.toHttpCrates buf
  request : RequestReader.parse crates.toHttpCrates buf ≠ .ok .incomplete → ∀ more,
    RequestReader.parse crates.toHttpCrates (buf ++ more) = RequestReader.parse crates.toHttpCrates buf
  response : ResponseReader.parse crates buf ≠ .ok .incomplete → ∀ more,
    ResponseReader.parse crates (buf ++ more) = ResponseReader.parse crates buf

theorem parsing_safe_and_stable {crates : ClientCrates} (inRange : crates.toHttpCrates.InRange) (settle : crates.Settle)
    (buf : Bytes) : Incremental crates buf := by
  have checked : ChunkedBody.decodeChecked crates.toHttpCrates buf [] 0 =
      .ofExcept (ChunkedBody.decode crates.toHttpCrates buf) :=
    ChunkedBody.decodeChecked_eq inRange (Nat.zero_le _) (Nat.zero_le _)
  refine ⟨checked, ?_, ?_, ?_, ?_, ?_⟩
  · rw [checked]
    exact Outcome.ofExcept_ne_aborted _
  · intro body consumed decoded
    exact ChunkedBody.decodeFrom_bounded inRange (Nat.zero_le _) (Nat.zero_le _) decoded
  · intro answered more
    exact decodeFrom_append settle.toSettle more answered
  · intro answered more
    exact RequestReader.settles_parse settle.toSettle buf more answered
  · intro answered more
    exact ResponseReader.settles_parse settle buf more answered

/-! ## The tokeniser -/

theorem settles_awaitLine {R : Type} {waiting : R} {next : Bytes → Bytes → R} (each : ∀ line, Settles (next line) waiting) :
    Settles (awaitLine waiting next) waiting := by
  intro seen more answered
  cases found : splitOnceText crlf seen with
  | none =>
    rw [awaitLine, found] at answered
    exact absurd rfl answered
  | some parts =>
    rw [awaitLine, found] at answered
    rw [awaitLine, awaitLine, splitOnceText_more (by decide) found more, found]
    exact each parts.1 parts.2 more answered

theorem settles_readHeaders (slots : Nat) : Settles (readHeaders slots) (.ok .incomplete) := by
  induction slots with
  | zero => exact settles_awaitLine fun line => .const _
  | succ slots ih =>
    refine settles_awaitLine fun line => ?_
    split
    · exact .const _
    · split
      · exact .const _
      · rename_i name value _
        exact ih.map (addHeader line name value)

theorem settles_chunkSizeOf (digits : Bytes) : Settles (chunkSizeOf digits) (some .incomplete) := by
  intro seen more answered
  rcases seen with _ | ⟨first, _ | ⟨second, rest⟩⟩
  · exact absurd rfl answered
  · have other : first ≠ 13 := by
      rintro rfl
      exact answered rfl
    cases more <;> simp [chunkSizeOf, other]
  · by_cases ends : first = 13 ∧ second = 10
    · obtain ⟨rfl, rfl⟩ := ends
      rfl
    · have refused : ∀ tail, chunkSizeOf digits (first :: second :: tail) = none := by
        intro tail
        unfold chunkSizeOf
        split <;> simp_all
      exact (refused (rest ++ more)).trans (refused rest).symm

theorem settles_readChunkSize : Settles readChunkSize (some .incomplete) := by
  intro seen more answered
  have stopped : seen.dropWhile Hex.isDigit ≠ [] := by
    intro all
    exact answered (by rw [readChunkSize, all]; rfl)
  have left : (seen ++ more).dropWhile Hex.isDigit = seen.dropWhile Hex.isDigit ++ more := by
    simp [List.dropWhile_append, stopped]
  have taken : (seen ++ more).takeWhile Hex.isDigit = seen.takeWhile Hex.isDigit := by
    have parts := congrArg List.length (List.takeWhile_append_dropWhile (p := Hex.isDigit) (l := seen))
    rw [List.length_append] at parts
    have shorter : (seen.takeWhile Hex.isDigit).length ≠ seen.length := by
      have positive := List.length_pos_iff.mpr stopped
      omega
    rw [List.takeWhile_append, if_neg shorter]
  rw [readChunkSize, left, taken]
  exact settles_chunkSizeOf _ _ more answered

theorem awaitLine_eq {R : Type} {waiting result : R} {next : Bytes → Bytes → R}
    (read : awaitLine waiting next buf = result) (answered : result ≠ waiting) :
    ∃ line rest, buf = line ++ (crlf ++ rest) ∧ next line rest = result := by
  unfold awaitLine at read
  split at read
  · exact absurd read.symm answered
  · rename_i line rest found
    exact ⟨line, rest, splitOnceText_eq_some found, read⟩

theorem length_line (line rest : Bytes) : (line ++ (crlf ++ rest)).length = line.length + 2 + rest.length := by
  simp only [crlf, List.length_append, List.length_cons, List.length_nil]
  omega

theorem length_readHeaders {slots length : Nat} {headers : Headers}
    (read : readHeaders slots buf = .ok (.complete (length, headers))) : length ≤ buf.length := by
  induction slots generalizing buf length headers with
  | zero =>
    obtain ⟨line, rest, rfl, ends⟩ := awaitLine_eq read nofun
    split at ends
    · cases ends
      rw [length_line]
      omega
    · cases ends
  | succ slots ih =>
    obtain ⟨line, rest, rfl, ends⟩ := awaitLine_eq read nofun
    split at ends
    · cases ends
      rw [length_line]
      omega
    · split at ends
      · cases ends
      · cases inner : readHeaders slots rest with
        | error error => simp [inner, addHeader] at ends
        | ok status =>
          cases status with
          | incomplete => simp [inner, addHeader] at ends
          | complete found =>
            have short := ih inner
            simp only [inner, addHeader, Except.ok.injEq, Status.complete.injEq, Prod.mk.injEq] at ends
            rw [← ends.1, length_line]
            omega

theorem length_readChunkSize {lineLen : Nat} {size : UInt64}
    (read : readChunkSize buf = some (.complete (lineLen, size))) : 1 ≤ lineLen ∧ lineLen ≤ buf.length := by
  have parts := congrArg List.length (List.takeWhile_append_dropWhile (p := Hex.isDigit) (l := buf))
  rw [List.length_append] at parts
  unfold readChunkSize chunkSizeOf at read
  split at read
  · cases read
  · cases read
  · rename_i ends
    split at read
    · cases read
    · cases read
      rw [ends, List.length_cons, List.length_cons] at parts
      omega
  · cases read

/-- The tokeniser with a status line in front of the headers. -/
def plainClientCrates : ClientCrates where
  toHttpCrates := plainCrates
  parseResponse slots := awaitLine (.ok .incomplete) fun line rest =>
    match line.splitOn 0x20 with
    | _ :: code :: _ =>
      let number := (parseUnsigned (2 ^ 16) (headerName code).toList).toOption.map UInt16.ofNat
      (readHeaders slots rest).map (behindLine line (⟨number, ·⟩))
    | _ => .error .other
  buildResponse code headers := some (code, headers)

theorem plainCrates_inRange : plainCrates.InRange where
  chunkSize read := length_readChunkSize read
  headers {slots buf length} read := by
    cases inner : readHeaders slots buf with
    | error error => simp [plainCrates, inner, Except.map] at read
    | ok status =>
      cases status with
      | incomplete => simp [plainCrates, inner, Except.map, blockLength] at read
      | complete found =>
        have short := length_readHeaders inner
        simp only [plainCrates, inner, Except.map, blockLength, Except.ok.injEq, Status.complete.injEq] at read
        rw [← read]
        exact short

theorem plainClientCrates_settle : plainClientCrates.Settle where
  parseRequest slots := by
    refine settles_awaitLine fun line => ?_
    split
    · rename_i method path _ _
      exact (settles_readHeaders slots).map
        (Except.map (behindLine line (RawRequest.mk (some (headerName method)) (some (headerName path)))))
    · exact .const _
  parseChunkSize := settles_readChunkSize
  parseHeaders slots := (settles_readHeaders slots).map (Except.map blockLength)
  parseResponse slots := by
    refine settles_awaitLine fun line => ?_
    split
    · exact (settles_readHeaders slots).map (Except.map (behindLine line (RawResponse.mk _)))
    · exact .const _

/-- The assumptions hold of the tokeniser, here on a whole body: whatever follows it, it reads as the same. -/
theorem tokeniser_safe_and_stable :
    let buf := utf8 "5\r\nhello\r\n0\r\n\r\n"
    plainClientCrates.InRange ∧ plainClientCrates.Settle ∧ Incremental plainClientCrates buf ∧
      ∀ more, ChunkedBody.decode plainCrates (buf ++ more) = .ok (.complete (utf8 "hello") 15) := by
  intro buf
  have safe := parsing_safe_and_stable plainCrates_inRange plainClientCrates_settle buf
  have decoded : ChunkedBody.decode plainCrates buf = .ok (.complete (utf8 "hello") 15) := by decide +kernel
  have answered : ChunkedBody.decode plainCrates buf ≠ .ok .incomplete := by
    rw [decoded]
    nofun
  exact ⟨plainCrates_inRange, plainClientCrates_settle, safe, fun more => (safe.chunks answered more).trans decoded⟩

end Nethernet.Http
