import Nethernet.Foundation.Machine
import Nethernet.Foundation.Mailbox
import Nethernet.Http.Signaler
import Nethernet.Session.Outputs
import Nethernet.Tokio.Negotiate

/-! The task that drives one session: it hands packets, commands and timer ticks to the
connection and performs what the connection puts out.

The task runs beside the application, which takes messages from two bounded queues, may drop
either receiver, and may close the session; `TaskEvent` lists the steps of both. -/

set_option autoImplicit false

namespace Nethernet.Tokio
open Foundation

inductive Command where
  | send (channel : Channel) (data : Bytes)
  | signal (signal : Signal)
  | remoteAddr
  | rtt
  | setPlayer (player : PlayerInfo)
  | player
  | setHost (host : String)
  | host

-- what goes back on the reply channel of a command, if it has one
inductive CommandReply where
  | none
  | sent (result : Except NetherError Unit)
  | remoteAddr (addr : Option SocketAddr)
  | rtt (rtt : Option Duration)
  | player (player : Option PlayerInfo)
  | host (host : Option String)

/-- What the `select!` of the loop returns with. -/
inductive Selected where
  | closed
  | received (data : Bytes) (source : SocketAddr) (now : Instant)
  | receiveFailed
  | command (command : Command) (now : Instant)
  | commandsClosed
  | timer (now : Instant)

inductive TaskEvent where
  | select (selected : Selected)
  -- one turn of the loop that polls the connection
  | poll (now : Instant)
  | take (channel : Channel)
  | hangUp (channel : Channel)
  | close
  | abort

inductive TaskPhase where
  | selecting
  | polling
  -- waits for room in the queue of reliable messages
  | sending (data : Bytes)
  | ended
  deriving DecidableEq, Repr

def packetChannelCapacity : Nat := 1024

abbrev PacketChannel := Mailbox packetChannelCapacity Bytes

structure SessionTask {crates : WebrtcCrates} (rtc : Rtc crates.Candidate) where
  connection : Connection rtc
  phase : TaskPhase
  wake : Instant
  remoteAddr : Option SocketAddr
  rtt : Option Duration
  player : Option PlayerInfo
  host : Option String
  readyPending : Bool
  closeToken : Bool
  packets : PacketChannel
  unreliable : PacketChannel
  -- what the socket was asked to send, and the addresses it was asked to claim
  sent : List (Bytes × SocketAddr)
  claimed : List SocketAddr

namespace SessionTask
variable {crates : WebrtcCrates} {rtc : Rtc crates.Candidate}

def maxIdle : Duration := .fromSecs 1

def spawn (connection : Connection rtc) (now : Instant) : SessionTask rtc where
  connection := connection
  phase := .selecting
  wake := now + maxIdle
  remoteAddr := none
  rtt := none
  player := none
  host := none
  readyPending := true
  closeToken := false
  packets := .empty
  unreliable := .empty
  sent := []
  claimed := []

/-! ## Selecting -/

-- the loop is left, and everyone who holds the token sees it
def finish (task : SessionTask rtc) : SessionTask rtc := { task with phase := .ended, closeToken := true }

def give (task : SessionTask rtc) (input : ConnectionInput) : SessionTask rtc :=
  { task with connection := (task.connection.handle input).1, phase := .polling }

def command (task : SessionTask rtc) (now : Instant) : Command → SessionTask rtc × CommandReply
  | .send channel data =>
    (task.give (.send channel data now),
      .sent ((task.connection.handle (.send channel data now)).2.mapError .protocol))
  | .signal signal => (task.give (.signal signal now), .none)
  | .remoteAddr => ({ task with phase := .polling }, .remoteAddr task.remoteAddr)
  | .rtt => ({ task with phase := .polling }, .rtt task.rtt)
  | .setPlayer player => ({ task with player := some player, phase := .polling }, .none)
  | .player => ({ task with phase := .polling }, .player task.player)
  | .setHost host => ({ task with host := some host, phase := .polling }, .none)
  | .host => ({ task with phase := .polling }, .host task.host)

-- the branches are tried in order, so a cancelled token wins over all others
def select (task : SessionTask rtc) (selected : Selected) : SessionTask rtc × CommandReply :=
  if task.closeToken then (task.finish, .none)
  else
    match selected with
    | .closed => (task, .none)
    | .received data source now => (task.give (.packet data source now), .none)
    | .receiveFailed => ({ task with phase := .polling }, .none)
    | .command command now => task.command now command
    | .commandsClosed => (task.finish, .none)
    | .timer now => if now < task.wake then (task, .none) else (task.give (.timeout now), .none)

/-! ## Polling -/

-- the end of a turn of the outer loop
def settle (task : SessionTask rtc) : SessionTask rtc :=
  { task with
    phase := .selecting
    claimed := task.claimed ++ task.connection.remoteAddr.toList
    rtt := task.connection.rtt }

-- `packet_tx.send`: a dropped receiver ends the inner loop
def deliver (task : SessionTask rtc) (data : Bytes) : SessionTask rtc :=
  match task.packets.post data with
  | .posted packets => { task with packets := packets, phase := .polling }
  | .full => { task with phase := .sending data }
  | .closed => task.settle

-- `unreliable_tx.try_send`: what does not fit is dropped
def tryDeliver (task : SessionTask rtc) (data : Bytes) : SessionTask rtc :=
  match task.unreliable.post data with
  | .posted unreliable => { task with unreliable := unreliable }
  | .full | .closed => task

def perform (task : SessionTask rtc) (now : Instant) : SessionOutput → SessionTask rtc
  | .send data addr => { task with sent := task.sent ++ [(data, addr)] }
  | .event .ready => { task with remoteAddr := task.connection.remoteAddr, readyPending := false }
  | .event .failed => task.finish
  | .message .reliable data => task.deliver data
  | .message .unreliable data => task.tryDeliver data
  | .wait duration => { task with wake := now + min duration maxIdle }

-- `Connection::poll`
def polled (task : SessionTask rtc) (rest : List SessionOutput) : SessionTask rtc :=
  { task with connection := { task.connection with session := { task.connection.session with output := rest } } }

def poll (task : SessionTask rtc) (now : Instant) : SessionTask rtc :=
  match task.connection.session.output with
  | [] => task.settle
  | output :: rest => (task.polled rest).perform now output

/-! ## Steps of the task and of the application -/

def onChannel (task : SessionTask rtc) (channel : Channel) (change : PacketChannel → PacketChannel) : SessionTask rtc :=
  match channel with
  | .reliable => { task with packets := change task.packets }
  | .unreliable => { task with unreliable := change task.unreliable }

/-- An event that the phase does not allow changes nothing. -/
def step (task : SessionTask rtc) (event : TaskEvent) : SessionTask rtc × CommandReply :=
  match event, task.phase with
  | .select selected, .selecting => task.select selected
  | .poll now, .polling => (task.poll now, .none)
  | .poll _, .sending data => (task.deliver data, .none)
  | .take channel, _ => (task.onChannel channel Mailbox.take, .none)
  | .hangUp channel, _ => (task.onChannel channel Mailbox.hangUp, .none)
  | .close, _ => ({ task with closeToken := true }, .none)
  | .abort, _ => (task.finish, .none)
  | .select _, _ | .poll _, _ => (task, .none)

end SessionTask

end Nethernet.Tokio
