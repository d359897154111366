import Nethernet.Http.Cuts

/-! One turn of a connection in the server's loop: whether it gets as far as reading a
request, and what it decides there. -/

set_option autoImplicit false

namespace Nethernet.Http
open Foundation

namespace HttpStream
variable {wire : Wire} (stream : HttpStream wire)

theorem outbound_fill : stream.fill.1.outbound = stream.outbound := by
  unfold fill
  split <;> rfl

theorem outbound_establish : stream.establish.1.outbound = stream.outbound := by
  unfold establish
  split
  · rfl
  · split
    · rfl
    · rw [outbound_fill]

theorem drain_of_empty {stream : HttpStream wire} (empty : stream.outbound = []) : stream.drain = (stream, .ok .empty) := by
  simp [drain, empty]

theorem outbound_close : stream.close.1.outbound = stream.outbound := by
  unfold close
  split <;> rfl

end HttpStream

variable {verdict : RequestVerdict}

namespace TcpConn
variable {wire : Wire}

/-! ## How far a turn gets -/

def settling (conn : TcpConn wire) : Option (TcpConn wire) :=
  match conn.stream.establish with
  | (_, .error _) | (_, .ok .closed) => none
  | (stream, .ok _) =>
    match stream.flush with
    | (_, .error _) => none
    | (stream, .ok ()) => some { conn with stream := stream }

def receiving (conn : TcpConn wire) (now : Instant) : Option (TcpConn wire) :=
  match conn.stream.fill with
  | (_, .error _) | (_, .ok .closed) => none
  | (stream, .ok .received) => { conn with stream := stream, lastActive := now }.settling
  | (stream, .ok .idle) => { conn with stream := stream }.settling

/-- The connection as its turn comes to the reading of a request, if it gets that far. -/
def reading (conn : TcpConn wire) (now : Instant) : Option (TcpConn wire) :=
  if !conn.stream.hasOutbound && conn.closeAfterWrite then none
  else
    match conn.stream.drain with
    | (_, .error _) => none
    | (stream, .ok .empty) | (stream, .ok .blocked) => { conn with stream := stream }.receiving now
    | (stream, .ok .part) => { conn with stream := stream, lastActive := now }.receiving now
    | (stream, .ok .complete) =>
      if conn.closeAfterWrite then none else { conn with stream := stream, lastActive := now }.receiving now

/-- Only the socket and what was read changed, and what was still to be written may have become less. -/
structure Same (conn next : TcpConn wire) : Prop where
  requested : next.requested = conn.requested
  closeAfterWrite : next.closeAfterWrite = conn.closeAfterWrite
  outbound : conn.stream.outbound = [] → next.stream.outbound = []

theorem Same.trans {conn middle next : TcpConn wire} (first : Same conn middle) (second : Same middle next) : Same conn next :=
  ⟨second.requested.trans first.requested, second.closeAfterWrite.trans first.closeAfterWrite,
    second.outbound ∘ first.outbound⟩

/-- A turn that gets to the reading ends as the reading does, and any other asks nothing. -/
def Turned (crates : HttpCrates) (conn : TcpConn wire) (there : Option (TcpConn wire)) (result : TcpConn wire × Verdict) : Prop :=
  match there with
  | some there => Same conn there ∧ result = there.readRequest crates
  | none => Same conn result.1 ∧ ∀ request, result.2 ≠ .asked request

variable {crates : HttpCrates}

theorem Turned.from {conn middle : TcpConn wire} {there : Option (TcpConn wire)} {result : TcpConn wire × Verdict}
    (same : Same conn middle) (turned : Turned crates middle there result) : Turned crates conn there result := by
  cases there with
  | none => exact ⟨same.trans turned.1, turned.2⟩
  | some there => exact ⟨same.trans turned.1, turned.2⟩

theorem same_stream {conn : TcpConn wire} {stream : HttpStream wire} (outbound : conn.stream.outbound = [] → stream.outbound = [])
    (lastActive : Instant) : Same conn { conn with stream := stream, lastActive := lastActive } :=
  ⟨rfl, rfl, outbound⟩

variable (conn : TcpConn wire)

theorem turned_flush {stream : HttpStream wire} (same : conn.stream.outbound = [] → stream.outbound = []) :
    Turned crates conn
      (match stream.flush with
        | (_, .error _) => none
        | (stream, .ok ()) => some { conn with stream := stream })
      (match stream.flush with
        | (stream, .error _) => ({ conn with stream := stream }, .closed)
        | (stream, .ok ()) => { conn with stream := stream }.readRequest crates) := by
  have kept : stream.flush.1.outbound = stream.outbound := rfl
  cases flushed : stream.flush with
  | mk after result =>
    rw [flushed] at kept
    cases result with
    | error error => exact ⟨same_stream (fun empty => kept.trans (same empty)) conn.lastActive, nofun⟩
    | ok => exact ⟨same_stream (fun empty => kept.trans (same empty)) conn.lastActive, rfl⟩

theorem turned_settleTls : Turned crates conn conn.settling (conn.settleTls crates) := by
  have kept := conn.stream.outbound_establish
  unfold settling settleTls
  cases established : conn.stream.establish with
  | mk stream result =>
    rw [established] at kept
    have same : conn.stream.outbound = [] → stream.outbound = [] := kept.trans
    rcases result with error | (_ | _ | _)
    · exact ⟨same_stream same conn.lastActive, nofun⟩
    · exact turned_flush conn same
    · exact turned_flush conn same
    · exact ⟨same_stream same conn.lastActive, nofun⟩

theorem turned_receive (now : Instant) : Turned crates conn (conn.receiving now) (conn.receive crates now) := by
  have kept := conn.stream.outbound_fill
  unfold receiving receive
  cases filled : conn.stream.fill with
  | mk stream result =>
    rw [filled] at kept
    have same : conn.stream.outbound = [] → stream.outbound = [] := kept.trans
    rcases result with error | (_ | _ | _)
    · exact ⟨same_stream same conn.lastActive, nofun⟩
    · exact .from (same_stream same now) (turned_settleTls _)
    · exact .from (same_stream same conn.lastActive) (turned_settleTls _)
    · exact ⟨same_stream same conn.lastActive, nofun⟩

theorem turned_close : Turned crates conn none conn.close := by
  have kept := conn.stream.outbound_close
  refine ⟨same_stream kept.trans conn.lastActive, ?_⟩
  intro request
  unfold close
  dsimp only
  split <;> nofun

theorem turned_pump (crates : HttpCrates) (conn : TcpConn wire) (now : Instant) :
    Turned crates conn (conn.reading now) (conn.pump crates now) := by
  unfold reading pump
  split
  · exact turned_close conn
  · have kept : conn.stream.outbound = [] → conn.stream.drain.1.outbound = [] := by
      intro empty
      rw [HttpStream.drain_of_empty empty]
      exact empty
    cases drained : conn.stream.drain with
    | mk stream result =>
      rw [drained] at kept
      rcases result with error | (_ | _ | _ | _)
      · exact ⟨same_stream kept conn.lastActive, nofun⟩
      · exact .from (same_stream kept conn.lastActive) (turned_receive _ now)
      · exact .from (same_stream kept conn.lastActive) (turned_receive _ now)
      · exact .from (same_stream kept now) (turned_receive _ now)
      · dsimp only
        split
        · exact .from (same_stream kept now) (turned_close _)
        · exact .from (same_stream kept now) (turned_receive _ now)

/-! ## What a turn decides -/

/-- The verdict on the bytes received so far, of a connection that has not asked yet. -/
def decision (crates : HttpCrates) (conn : TcpConn wire) (now : Instant) : Option RequestVerdict :=
  (conn.reading now).bind fun there =>
    if there.requested then none else judgeRequest crates there.stream.inbound

section
variable {conn : TcpConn wire} {now : Instant}

theorem decision_eq_some (decided : conn.decision crates now = some verdict) :
    ∃ there, conn.reading now = some there ∧ there.requested = false ∧
      judgeRequest crates there.stream.inbound = some verdict := by
  obtain ⟨there, reaches, decided⟩ := Option.bind_eq_some_iff.mp decided
  split at decided
  · cases decided
  · rename_i fresh
    exact ⟨there, reaches, Bool.eq_false_iff.mpr fresh, decided⟩

theorem pump_undecided (undecided : conn.decision crates now = none) :
    Same conn (conn.pump crates now).1 ∧ ∀ request, (conn.pump crates now).2 ≠ .asked request := by
  have turned := turned_pump crates conn now
  unfold decision at undecided
  cases there : conn.reading now with
  | none =>
    rw [there] at turned
    exact turned
  | some there' =>
    simp only [there, Option.bind_some] at undecided turned
    obtain ⟨same, ends⟩ := turned
    rw [ends]
    split at undecided
    · rename_i asked
      rw [readRequest, if_pos asked]
      exact ⟨same.trans ⟨rfl, rfl, id⟩, nofun⟩
    · rename_i fresh
      rw [readRequest_eq (Bool.eq_false_iff.mpr fresh), undecided]
      exact ⟨same, nofun⟩

theorem fresh_of_decision (decided : conn.decision crates now = some verdict) : conn.requested = false := by
  have turned := turned_pump crates conn now
  obtain ⟨there, reaches, fresh, -⟩ := decision_eq_some decided
  rw [reaches] at turned
  exact turned.1.requested.symm.trans fresh

theorem pump_refused {status : StatusCode} (refused : conn.decision crates now = some (.refused status)) :
    ∃ there, Same conn there ∧ there.requested = false ∧ conn.pump crates now = (there.refuse status, .kept) := by
  have turned := turned_pump crates conn now
  obtain ⟨there, reaches, fresh, judged⟩ := decision_eq_some refused
  rw [reaches] at turned
  refine ⟨there, turned.1, fresh, ?_⟩
  rw [turned.2, readRequest_eq fresh, judged]

theorem pump_asked {request : Request String} (asked : conn.decision crates now = some (.asked request)) :
    (conn.pump crates now).1.requested = true ∧ (conn.pump crates now).2 = .asked request := by
  have turned := turned_pump crates conn now
  obtain ⟨there, reaches, fresh, judged⟩ := decision_eq_some asked
  rw [reaches] at turned
  rw [turned.2, readRequest_eq fresh, judged]
  exact ⟨rfl, rfl⟩

-- a connection that is to be closed is read from only while it still has to write
theorem hasOutbound_of_decision (decided : conn.decision crates now = some verdict)
    (closes : conn.closeAfterWrite = true) : conn.stream.hasOutbound = true := by
  obtain ⟨there, reaches, -⟩ := decision_eq_some decided
  by_contra idle
  simp [reading, closes, idle] at reaches

end

end TcpConn

end Nethernet.Http
