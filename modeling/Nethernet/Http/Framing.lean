import Nethernet.Http.Chunks
import Nethernet.Http.Cuts

/-! Whether a message says its length in one way only. The readers look at the first
Content-Length of a message and parse it as a number, which may have a sign. -/

set_option autoImplicit false

namespace Nethernet.Http
open Foundation

variable {further : List Bytes} {count : Nat} {first body : Bytes} {crates : HttpCrates} {value buf : Bytes}

namespace BodyFraming

/-! ## Length headers -/

def lengths (headers : Headers) : List Bytes := (headers.filter (isHeader contentLength)).map Prod.snd

/-- Digits, with whitespace around them, that denote the count. -/
def Spells (value : Bytes) (count : Nat) : Prop := ∃ text, fromUtf8 value = .ok text ∧ Decimal (trim text.toList) count

def Signed (value : Bytes) : Prop := ∃ text rest, fromUtf8 value = .ok text ∧ trim text.toList = '+' :: rest

/-- Every length header spells the one length that the body has. -/
def Unambiguous (headers : Headers) (body : Bytes) : Prop :=
  ∃ count ≤ maxBody, (∀ value ∈ lengths headers, Spells value count) ∧ body.length = count

/-- The first length has no sign, and the others spell the same one. -/
def Plain (headers : Headers) : Prop :=
  ∀ first further, lengths headers = first :: further →
    ¬Signed first ∧ ∀ count, Spells first count → ∀ value ∈ further, Spells value count

theorem get_contentLength (headers : Headers) : headers.get contentLength = (lengths headers).head? := by
  rw [Headers.get, lengths, List.head?_map, List.head?_filter]

theorem Spells.unique {other : Nat} (first : Spells value count) (second : Spells value other) : count = other := by
  obtain ⟨text, decoded, decimal⟩ := first
  obtain ⟨same, again, decimal'⟩ := second
  rw [decoded, Except.ok.injEq] at again
  subst again
  rw [← decimal.denotes, decimal'.denotes]

theorem Spells.unsigned (spells : Spells value count) : ¬Signed value := by
  rintro ⟨text, rest, decoded, plus⟩
  obtain ⟨same, again, decimal⟩ := spells
  rw [decoded, Except.ok.injEq] at again
  subst again
  exact decimal.unsigned plus

theorem lengthOf_eq_ok (read : lengthOf value = .ok count) : count ≤ maxBody ∧ (Spells value count ∨ Signed value) := by
  unfold lengthOf at read
  cases decoded : fromUtf8 value with
  | error error => simp [decoded] at read
  | ok text =>
    simp only [decoded] at read
    cases parsed : parseUnsigned (2 ^ 64) (trim text.toList) with
    | error error =>
      rw [parsed] at read
      cases read
    | ok number =>
      rw [parsed] at read
      dsimp only at read
      split at read
      · cases read
      · rename_i small
        cases read
        refine ⟨Nat.le_of_not_lt small, ?_⟩
        rcases parseUnsigned_eq_ok parsed with decimal | ⟨rest, plus, -⟩
        · exact .inl ⟨text, decoded, decimal⟩
        · exact .inr ⟨text, rest, decoded, plus⟩

/-- A body of the first length is unambiguous exactly if the headers are plain. -/
theorem unambiguous_iff {headers : Headers} (carries : lengths headers = first :: further)
    (read : lengthOf first = .ok count) (length : body.length = count) : Unambiguous headers body ↔ Plain headers := by
  obtain ⟨small, spelled⟩ := lengthOf_eq_ok read
  constructor
  · rintro ⟨same, -, all, measured⟩ first' further' carries'
    rw [carries] at all carries'
    cases carries'
    have spells := all first List.mem_cons_self
    refine ⟨spells.unsigned, fun other spells' value member => ?_⟩
    rw [← spells.unique spells']
    exact all value (List.mem_cons_of_mem first member)
  · intro plain
    obtain ⟨unsigned, same⟩ := plain first further carries
    have spells : Spells first count := spelled.resolve_right unsigned
    refine ⟨count, small, fun value member => ?_, length⟩
    rw [carries] at member
    rcases List.mem_cons.mp member with rfl | member
    · exact spells
    · exact same count spells value member

theorem of_eq_ok {headers : Headers} {framing : Option BodyFraming} (framed : BodyFraming.of headers = .ok framing)
    (carries : lengths headers = first :: further) :
    ∃ count, lengthOf first = .ok count ∧ framing = some (.length count) := by
  have found : headers.get contentLength = some first := by
    rw [get_contentLength, carries]
    rfl
  rw [BodyFraming.of, found] at framed
  cases encoding : headers.get transferEncoding with
  | some encoding => simp [*] at framed
  | none =>
    simp only [encoding] at framed
    cases read : lengthOf first with
    | error error => simp [read, Except.map] at framed
    | ok count =>
      rw [read] at framed
      cases framed
      exact ⟨count, rfl, rfl⟩

theorem length_of_read {taken : Nat} (read : (BodyFraming.length count).read crates buf = .ok (some (body, taken))) :
    body.length = count := by
  simp only [BodyFraming.read, Except.ok.injEq] at read
  split at read
  · rename_i here
    cases read
    exact List.length_take_of_le here
  · cases read

end BodyFraming

/-! ## The readers -/

open BodyFraming

/-- A complete request with length headers is such that `good` holds of them and the body. -/
def RequestReader.Frames (crates : HttpCrates) (buf : Bytes) (good : Headers → Bytes → Prop) : Prop :=
  ∀ headerLen parsed request, crates.parseRequest maxHeaders buf = .ok (.complete (headerLen, parsed)) →
    parse crates buf = .ok (.complete request) → lengths parsed.headers ≠ [] → good parsed.headers request.body

def ResponseReader.Frames (crates : ClientCrates) (buf : Bytes) (good : Headers → Bytes → Prop) : Prop :=
  ∀ headerLen parsed reply, crates.parseResponse maxHeaders buf = .ok (.complete (headerLen, parsed)) →
    parse crates buf = .ok (.complete reply) → lengths parsed.headers ≠ [] → good parsed.headers reply.body

variable {request : Request Bytes}

theorem RequestReader.body_build {parsed : RawRequest} (built : build crates parsed body = .ok request) :
    request.body = body := by
  unfold build at built
  repeat' split at built
  all_goals cases built
  rfl

theorem ResponseReader.body_build {crates : ClientCrates} {parsed : RawResponse} {reply : Reply}
    (built : build crates parsed body = .ok reply) : reply.body = body := by
  unfold build at built
  repeat' split at built
  all_goals cases built
  rfl

theorem finish_eq_ok {E M : Type} {ofFraming : FramingError → E} {build : Bytes → Except E M} {bodyOf : M → Bytes}
    (built : ∀ {body message}, build body = .ok message → bodyOf message = body) {message : M}
    {read : Except FramingError (Option (Bytes × Nat))} (complete : finish ofFraming build read = .ok (.complete message)) :
    ∃ taken, read = .ok (some (bodyOf message, taken)) := by
  rcases read with error | (_ | ⟨body, taken⟩)
  · cases complete
  · cases complete
  · simp only [finish] at complete
    cases made : build body with
    | error error => simp [made, Except.map] at complete
    | ok result =>
      rw [made] at complete
      cases complete
      exact ⟨taken, by rw [built made]⟩

theorem RequestReader.length_body {headerLen : Nat} {parsed : RawRequest}
    (head : crates.parseRequest maxHeaders buf = .ok (.complete (headerLen, parsed)))
    (complete : parse crates buf = .ok (.complete request)) (carries : lengths parsed.headers = first :: further) :
    ∃ count, lengthOf first = .ok count ∧ request.body.length = count := by
  rw [parse_eq, head, behind] at complete
  split at complete
  · cases complete
  · cases framed : BodyFraming.of parsed.headers with
    | error error =>
      rw [framed] at complete
      cases complete
    | ok framing =>
      obtain ⟨count, measured, rfl⟩ := of_eq_ok framed carries
      rw [framed] at complete
      obtain ⟨taken, read⟩ := finish_eq_ok body_build complete
      exact ⟨count, measured, length_of_read read⟩

theorem ResponseReader.length_body {crates : ClientCrates} {headerLen : Nat} {parsed : RawResponse} {reply : Reply}
    (head : crates.parseResponse maxHeaders buf = .ok (.complete (headerLen, parsed)))
    (complete : parse crates buf = .ok (.complete reply)) (carries : lengths parsed.headers = first :: further) :
    ∃ count, lengthOf first = .ok count ∧ reply.body.length = count := by
  rw [parse_eq, head, behind] at complete
  cases framed : BodyFraming.of parsed.headers with
  | error error =>
    rw [framed] at complete
    cases complete
  | ok framing =>
    obtain ⟨count, measured, rfl⟩ := of_eq_ok framed carries
    rw [framed] at complete
    obtain ⟨taken, read⟩ := finish_eq_ok body_build complete
    exact ⟨count, measured, length_of_read read⟩

/-- A reader frames a message unambiguously exactly if the message says its length once, or in the
same way each time, and without a sign. -/
theorem framing_unambiguous_iff (crates : ClientCrates) (buf : Bytes) :
    (RequestReader.Frames crates.toHttpCrates buf Unambiguous ↔
      RequestReader.Frames crates.toHttpCrates buf fun headers _ => Plain headers) ∧
    (ResponseReader.Frames crates buf Unambiguous ↔ ResponseReader.Frames crates buf fun headers _ => Plain headers) := by
  constructor
  · refine forall₃_congr fun headerLen parsed request => forall₃_congr fun head complete carries => ?_
    obtain ⟨first, further, carries⟩ := List.exists_cons_of_ne_nil carries
    obtain ⟨count, read, length⟩ := RequestReader.length_body head complete carries
    exact unambiguous_iff carries read length
  · refine forall₃_congr fun headerLen parsed reply => forall₃_congr fun head complete carries => ?_
    obtain ⟨first, further, carries⟩ := List.exists_cons_of_ne_nil carries
    obtain ⟨count, read, length⟩ := ResponseReader.length_body head complete carries
    exact unambiguous_iff carries read length

-- the lengths and the body of a request that is read
def accepted (buf : Bytes) : Option (List Bytes × Bytes) :=
  match plainCrates.parseRequest maxHeaders buf, RequestReader.parse plainCrates buf with
  | .ok (.complete (_, parsed)), .ok (.complete request) => some (lengths parsed.headers, request.body)
  | _, _ => none

/-- A signed length is taken, and so is a second length that says something else. -/
theorem ambiguous_lengths_accepted :
    accepted (utf8 "POST /v1/join/1 HTTP/1.1\r\ncontent-length: +5\r\n\r\nhello") =
      some ([utf8 "+5"], utf8 "hello") ∧
    accepted (utf8 "POST /v1/join/1 HTTP/1.1\r\ncontent-length: 5\r\ncontent-length: 7\r\n\r\nhello") =
      some ([utf8 "5", utf8 "7"], utf8 "hello") := by
  decide +kernel

end Nethernet.Http
