import Nethernet.Tokio.Pending

/-! The async server: one task takes the signals in turn and answers the offers
among them, while the sessions it spawned live and end in tasks of their own. -/

set_option autoImplicit false

namespace Nethernet.Tokio
open Foundation Identity

/-- The parts of the program around the server: how an offer is admitted and answered. -/
structure ServerHost where
  Link : Type
  ServerIdentity : Type
  Admitted : Type
  -- `OfferPolicy::admit`
  admitted : OfferPolicy ServerIdentity → Signal → Option SocketAddr → SystemTime → Except AdmissionError Admitted
  -- `Admitted::answer_advertising`
  answerAdvertising : Admitted → SocketAddr → List IpAddr → Instant → Except AdmissionError (Answered Link)

structure ConnectionConfig (ServerIdentity : Type) where
  timeouts : Timeouts := {}
  identity : Option ServerIdentity := none
  inferPeerCandidates : Bool := true
  maxPending : Nat := 64
  maxPendingPerNetworkId : Nat := 4

structure ServerSignaling where
  disableTrickleIce : Bool
  validatesOffers : Bool

abbrev ConnectionKey := String × UInt64

def keyOf (signal : Signal) : ConnectionKey := (signal.networkId, signal.connectionId)

/-- A session that was spawned. It is alive until its token is cancelled. The task that waits for it to be ready holds
its slot, and its forwarder listens on the channel of its dispatcher. -/
structure Spawned (host : ServerHost) where
  key : ConnectionKey
  connection : host.Link
  player : Option PlayerInfo
  hostName : Option String
  alive : Bool
  waiting : Bool
  listening : Bool

/-- An offer that has a slot. `again` says that a session of its key was alive when the offer came; nothing reads it. -/
structure Job where
  key : ConnectionKey
  slot : PendingSlot
  again : Bool

/-- Where the task is that takes the signals. -/
inductive Handler (host : ServerHost) where
  | idle
  | admitted (job : Job) (offer : Signal) (trust : Option TokenTrust)
  | sending (job : Job) (answered : Answered host.Link) (player : Option PlayerInfo) (hostName : Option String)
      (next : Signal) (rest : List Signal)
  | stopped

def Handler.job? {host : ServerHost} : Handler host → Option Job
  | .idle => none
  | .admitted job _ _ => some job
  | .sending job _ _ _ _ _ => some job
  | .stopped => none

/-- What is found out about an offer while it is answered. The bound address fails if no socket can be bound. -/
structure Found where
  remoteAddress : Option SocketAddr
  player : Option PlayerInfo
  hostName : Option String
  wall : SystemTime
  bound : Option (SocketAddr × List IpAddr)
  now : Instant

structure ServerWorld (host : ServerHost) where
  handler : Handler host
  pending : PendingOffers
  tokenTrust : Option TokenTrust
  sessions : List (Spawned host)
  -- a dispatcher is the sending half of the channel of a session
  dispatchers : Table ConnectionKey Nat
  -- the signals of answers and the error signals that went out
  answers : List Signal
  refusals : List Signal
  -- the candidates that were given to sessions
  delivered : List (Nat × Signal)

namespace ServerWorld
variable {host : ServerHost}

def start (trust : Option TokenTrust) : ServerWorld host := ⟨.idle, .new, trust, [], ∅, [], [], []⟩

def listens (world : ServerWorld host) (number : Nat) : Bool := world.sessions[number]?.any (·.listening)

def lives (world : ServerWorld host) (key : ConnectionKey) : Bool :=
  world.sessions.any fun session => session.alive && session.key = key

def dropSlot (world : ServerWorld host) (slot : PendingSlot) : ServerWorld host :=
  { world with pending := (world.pending.dropSlot slot).getD world.pending }

def signalError (world : ServerWorld host) (key : ConnectionKey) (code : SignalErrorCode) : ServerWorld host :=
  { world with refusals := world.refusals ++ [.errorSignal key.2 code key.1] }

/-! ## Signals -/

def takeOffer (config : ConnectionConfig host.ServerIdentity) (world : ServerWorld host) (offer : Signal) :
    ServerWorld host :=
  let world := { world with dispatchers := world.dispatchers.retain fun _ number => world.listens number }
  match world.pending.tryAdmit offer.networkId config.maxPending config.maxPendingPerNetworkId with
  | (pending, none) => { world with pending := pending }.signalError (keyOf offer) .incomingConnectionIgnored
  | (pending, some slot) =>
    { world with
      pending := pending
      handler := .admitted ⟨keyOf offer, slot, world.lives (keyOf offer)⟩ offer world.tokenTrust }

-- a forwarder passes on candidates only
def dispatch (world : ServerWorld host) (signal : Signal) : ServerWorld host :=
  match world.dispatchers.lookup (keyOf signal) with
  | none => world
  | some number =>
    if world.listens number then
      if signal.signalType = .candidate then { world with delivered := world.delivered ++ [(number, signal)] } else world
    else { world with dispatchers := world.dispatchers.erase (keyOf signal) }

-- the task takes no signal while it answers an offer
def hear (config : ConnectionConfig host.ServerIdentity) (world : ServerWorld host) (signal : Signal) : ServerWorld host :=
  match world.handler with
  | .idle => if signal.signalType = .offer then world.takeOffer config signal else world.dispatch signal
  | _ => world

/-! ## Answering an offer -/

section
variable (config : ConnectionConfig host.ServerIdentity) (signaling : ServerSignaling)

def offerPolicy (trust : Option TokenTrust) : OfferPolicy host.ServerIdentity where
  identity := config.identity
  tokenTrust := if signaling.validatesOffers then none else trust
  inferPeerCandidates := config.inferPeerCandidates
  iceMode := if signaling.disableTrickleIce then .full else .trickle
  establishDeadline := some config.timeouts.establish

def answerTo (offer : Signal) (trust : Option TokenTrust) (found : Found) :
    Except SignalErrorCode (Answered host.Link) := do
  let admitted ← (host.admitted (offerPolicy config signaling trust) offer found.remoteAddress found.wall).mapError (·.code)
  match found.bound with
  | none => .error .failedToCreatePeerConnection
  | some (addr, advertised) => (host.answerAdvertising admitted addr advertised found.now).mapError (·.code)

-- from the last signal on nothing is waited for
def spawn (world : ServerWorld host) (job : Job) (answered : Answered host.Link) (player : Option PlayerInfo)
    (hostName : Option String) : ServerWorld host :=
  { world with
    handler := .idle
    sessions := world.sessions ++ [⟨job.key, answered.connection, player, hostName, true, true, true⟩]
    dispatchers := world.dispatchers.insert job.key world.sessions.length }

def answerOffer (world : ServerWorld host) (found : Found) : ServerWorld host :=
  match world.handler with
  | .admitted job offer trust =>
    match answerTo config signaling offer trust found with
    | .error code => ({ world with handler := .idle }.dropSlot job.slot).signalError job.key code
    | .ok answered =>
      let player := answered.player.or found.player
      match answered.signals with
      | [] => world.spawn job answered player found.hostName
      | next :: rest => { world with handler := .sending job answered player found.hostName next rest }
  | _ => world

end

def signaled (world : ServerWorld host) (sent : Bool) : ServerWorld host :=
  match world.handler with
  | .sending job answered player hostName next rest =>
    if sent then
      let world := { world with answers := world.answers ++ [next] }
      match rest with
      | [] => world.spawn job answered player hostName
      | next :: rest => { world with handler := .sending job answered player hostName next rest }
    else { world with handler := .idle }.dropSlot job.slot
  | _ => world

-- the caller's token ends the answering at any of its waits
def cancel (world : ServerWorld host) : ServerWorld host :=
  match world.handler.job? with
  | none => world
  | some job => { world with handler := .idle }.dropSlot job.slot

/-! ## The tasks of the sessions -/

def change (world : ServerWorld host) (number : Nat) (change : Spawned host → Spawned host) : ServerWorld host :=
  { world with sessions := world.sessions.modify number change }

/-- The wait for a session ends: it is ready, or it is closed with or without an error signal. -/
def resolve (world : ServerWorld host) (number : Nat) (result : Except (Option SignalErrorCode) Unit) : ServerWorld host :=
  match world.sessions[number]? with
  | none => world
  | some session =>
    if session.waiting then
      let world := world.dropSlot ⟨session.key.1⟩
      match result with
      | .ok () => world.change number fun session => { session with waiting := false }
      | .error code =>
        let closed := world.change number fun session => { session with waiting := false, alive := false }
        match code with
        | none => closed
        | some code => closed.signalError session.key code
    else world

-- a forwarder ends with its session, or once the sending half is dropped
def mayEnd (world : ServerWorld host) (number : Nat) : Bool :=
  world.sessions[number]?.any fun session => !session.alive || world.dispatchers.lookup session.key ≠ some number

def forwarderEnds (world : ServerWorld host) (number : Nat) : ServerWorld host :=
  if world.mayEnd number then world.change number fun session => { session with listening := false } else world

def close (world : ServerWorld host) : ServerWorld host :=
  match world.handler with
  | .idle => { world with handler := .stopped, dispatchers := ∅ }
  | _ => world

end ServerWorld

/-- The signals, the ends of the waits in the task that takes them, and the steps of the other tasks. -/
inductive ServerInput where
  | signal (signal : Signal)
  | found (found : Found)
  | signaled (sent : Bool)
  | cancelled
  | resolved (number : Nat) (result : Except (Option SignalErrorCode) Unit)
  | closed (number : Nat)
  | forwarderEnds (number : Nat)
  | setTokenTrust (trust : Option TokenTrust)
  | close

namespace ServerWorld
variable {host : ServerHost}

def next (config : ConnectionConfig host.ServerIdentity) (signaling : ServerSignaling) (world : ServerWorld host)
    (input : ServerInput) : ServerWorld host :=
  match input with
  | .signal signal => world.hear config signal
  | .found found => world.answerOffer config signaling found
  | .signaled sent => world.signaled sent
  | .cancelled => world.cancel
  | .resolved number result => world.resolve number result
  | .closed number => world.change number fun session => { session with alive := false }
  | .forwarderEnds number => world.forwarderEnds number
  | .setTokenTrust trust => { world with tokenTrust := trust }
  | .close => world.close

def step (config : ConnectionConfig host.ServerIdentity) (signaling : ServerSignaling) (world : ServerWorld host)
    (input : ServerInput) : ServerWorld host × Unit :=
  (world.next config signaling input, ())

end ServerWorld

end Nethernet.Tokio
