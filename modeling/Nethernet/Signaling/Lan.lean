import Nethernet.Foundation.Table
import Nethernet.Net
import Nethernet.Protocol.Discovery
import Nethernet.Protocol.ServerData
import Nethernet.Protocol.Signal
import Nethernet.Time

/-! LAN signaling: discovery broadcasts and signals sent as encrypted datagrams.

A network id stays pinned to the address it was last heard from until that address
goes quiet for `addressTimeout`; a signal repeats until its target replies on the
same connection or the retries run out. -/

set_option autoImplicit false

namespace Nethernet
open Foundation

structure LanSignalerConfig where
  broadcastAddress : Option SocketAddr := none
  broadcastInterval : Duration := .fromSecs 2
  addressTimeout : Duration := .fromSecs 15
  signalRetryInterval : Duration := .fromMillis 500
  offerRetryInterval : Duration := .fromSecs 2
  signalRetries : UInt32 := 3
  maxDiscovered : Nat := 256
  deriving DecidableEq, Repr

inductive LanSignalerError where
  | protocol (error : ProtocolError)
  | invalidNetworkId (networkId : String)
  | unknownNetwork (networkId : UInt64)
  deriving DecidableEq, Repr

inductive LanSignalerInput where
  | datagram (buf : Bytes) (addr : SocketAddr) (now : Instant)
  | signal (signal : Signal) (now : Instant)
  | setServerData (data : ServerData)
  | update (now : Instant)
  deriving DecidableEq, Repr

inductive LanSignalerOutput where
  | datagram (buf : Bytes) (addr : SocketAddr)
  | signal (signal : Signal)
  | serverDiscovered (networkId : UInt64) (data : ServerData)
  | wait (duration : Duration)
  deriving DecidableEq, Repr

structure AddressEntry where
  addr : SocketAddr
  lastSeen : Instant
  deriving DecidableEq, Repr

structure PendingSignal where
  signal : Signal
  target : UInt64
  attempts : UInt32
  nextSend : Instant
  deriving DecidableEq, Repr

structure LanSignaler where
  networkId : UInt64
  config : LanSignalerConfig
  addresses : Table UInt64 AddressEntry
  discovered : Table UInt64 ServerData
  pending : List PendingSignal
  serverData : Option ServerData
  lastBroadcast : Option Instant
  lastCleanup : Option Instant
  output : List LanSignalerOutput

def retryInterval (config : LanSignalerConfig) (signal : Signal) : Duration :=
  match signal.signalType with
  | .offer => config.offerRetryInterval
  | _ => config.signalRetryInterval

variable {self : LanSignaler}

namespace LanSignaler

def new (networkId : UInt64) (config : LanSignalerConfig) : LanSignaler where
  networkId := networkId
  config := config
  addresses := ∅
  discovered := ∅
  pending := []
  serverData := none
  lastBroadcast := none
  lastCleanup := none
  output := []

def address (self : LanSignaler) (networkId : UInt64) : Option SocketAddr :=
  (self.addresses.lookup networkId).map (·.addr)

def push (self : LanSignaler) (output : LanSignalerOutput) : LanSignaler :=
  { self with output := self.output ++ [output] }

def poll (self : LanSignaler) : LanSignaler × Option LanSignalerOutput :=
  match self.output with
  | [] => (self, none)
  | first :: rest => ({ self with output := rest }, some first)

variable (crypto : DiscoveryCrypto)

/-! ## Sending signals -/

def sendSignal (self : LanSignaler) (signal : Signal) (target : UInt64) :
    LanSignaler × Except LanSignalerError Unit :=
  match self.address target with
  | none => (self, .error (.unknownNetwork target))
  | some addr =>
    match Discovery.encode crypto (.message ⟨target, signal.text⟩) self.networkId with
    | .error e => (self, .error (.protocol e))
    | .ok buf => (self.push (.datagram buf addr), .ok ())

def handleSignal (self : LanSignaler) (signal : Signal) (now : Instant) :
    LanSignaler × Except LanSignalerError Unit :=
  match Signal.parseU64 signal.networkId.toList with
  | .error _ => (self, .error (.invalidNetworkId signal.networkId))
  | .ok target =>
    match self.sendSignal crypto signal target with
    | (self, .error e) => (self, .error e)
    | (self, .ok ()) =>
      if self.config.signalRetries > 0 then
        let entry := ⟨signal, target, 1, now + retryInterval self.config signal⟩
        ({ self with pending := self.pending ++ [entry] }, .ok ())
      else (self, .ok ())

/-! ## Receiving datagrams -/

def answerRequest (self : LanSignaler) (addr : SocketAddr) :
    LanSignaler × Except LanSignalerError Unit :=
  match self.serverData with
  | none => (self, .ok ())
  | some data =>
    match Discovery.encode crypto (.response ⟨data.serialize⟩) self.networkId with
    | .error e => (self, .error (.protocol e))
    | .ok buf => (self.push (.datagram buf addr), .ok ())

def handleResponse (self : LanSignaler) (sender : UInt64) (response : ResponsePacket) : LanSignaler :=
  if self.discovered.size ≥ self.config.maxDiscovered ∧ sender ∉ self.discovered then self
  else
    match ServerData.decode response.applicationData with
    | .error _ => self
    | .ok data =>
      { self with discovered := self.discovered.insert sender data }.push (.serverDiscovered sender data)

-- whether a pending signal survives a message from `sender` on a connection
def survives (sender : UInt64) (connectionId : UInt64) (pending : PendingSignal) : Bool :=
  pending.target ≠ sender || pending.signal.connectionId ≠ connectionId

def ping : String := "Ping"

/-- The signal that a message carries for this signaler, if it carries one. -/
def messageSignal (networkId : UInt64) (sender : UInt64) (message : MessagePacket) : Option Signal :=
  if message.data = "" ∨ message.data = ping ∨ message.recipientId ≠ networkId then none
  else (Signal.fromString message.data (toString sender.toNat)).toOption

def handleMessage (self : LanSignaler) (sender : UInt64) (message : MessagePacket) : LanSignaler :=
  match messageSignal self.networkId sender message with
  | none => self
  | some signal =>
    { self with pending := self.pending.filter (survives sender signal.connectionId) }.push (.signal signal)

/-- A different address holds the sender's id and has not gone quiet. -/
def pinnedElsewhere (self : LanSignaler) (sender : UInt64) (addr : SocketAddr) (now : Instant) : Bool :=
  match self.addresses.lookup sender with
  | none => false
  | some entry => entry.addr ≠ addr && now.since entry.lastSeen < self.config.addressTimeout

def handlePacket (self : LanSignaler) (packet : Packets) (sender : UInt64) (addr : SocketAddr) :
    LanSignaler × Except LanSignalerError Unit :=
  match packet with
  | .request => self.answerRequest crypto addr
  | .response response => (self.handleResponse sender response, .ok ())
  | .message message => (self.handleMessage sender message, .ok ())

def handleDatagram (self : LanSignaler) (buf : Bytes) (addr : SocketAddr) (now : Instant) :
    LanSignaler × Except LanSignalerError Unit :=
  match Discovery.decode crypto buf with
  | .error _ => (self, .ok ())
  | .ok (packet, sender) =>
    if sender = self.networkId then (self, .ok ())
    else if self.pinnedElsewhere sender addr now then (self, .ok ())
    else
      { self with addresses := self.addresses.insert sender ⟨addr, now⟩ }.handlePacket crypto packet sender addr

/-! ## Timers -/

-- one call of the `retain_mut` closure: what becomes of an entry
def retry (config : LanSignalerConfig) (now : Instant) (pending : PendingSignal) : Option PendingSignal :=
  if pending.nextSend > now then some pending
  else if pending.attempts > config.signalRetries then none
  else some { pending with
    attempts := pending.attempts + 1
    nextSend := now + retryInterval config pending.signal }

def isDue (config : LanSignalerConfig) (now : Instant) (pending : PendingSignal) : Bool :=
  !(pending.nextSend > now) && !(pending.attempts > config.signalRetries)

-- a signal that cannot be sent again is dropped, with every equal entry
def resend (self : LanSignaler) (due : Signal × UInt64) : LanSignaler :=
  match self.sendSignal crypto due.1 due.2 with
  | (self, .ok ()) => self
  | (self, .error _) =>
    { self with pending := self.pending.filter fun pending => pending.target ≠ due.2 || pending.signal ≠ due.1 }

def retransmit (self : LanSignaler) (now : Instant) : LanSignaler :=
  let due := (self.pending.filter (isDue self.config now)).map fun pending => (pending.signal, pending.target)
  let kept := { self with pending := self.pending.filterMap (retry self.config now) }
  due.foldl (resend crypto) kept

def broadcastDue (self : LanSignaler) (now : Instant) : Bool :=
  match self.lastBroadcast with
  | some last => now.since last ≥ self.config.broadcastInterval
  | none => true

def broadcast (self : LanSignaler) (now : Instant) : LanSignaler × Except LanSignalerError Unit :=
  match self.config.broadcastAddress with
  | none => (self, .ok ())
  | some addr =>
    if ¬ self.broadcastDue now then (self, .ok ())
    else
      match Discovery.encode crypto .request self.networkId with
      | .error e => (self, .error (.protocol e))
      | .ok buf =>
        let sent := self.push (.datagram buf addr)
        let loopback := SocketAddr.loopback addr.port
        let sent := if loopback ≠ addr then sent.push (.datagram buf loopback) else sent
        ({ sent with lastBroadcast := some now }, .ok ())

def expire (self : LanSignaler) (now : Instant) : LanSignaler :=
  let addresses := self.addresses.retain fun _ entry => now.since entry.lastSeen < self.config.addressTimeout
  { self with
    addresses := addresses
    discovered := self.discovered.retain fun id _ => id ∈ addresses
    lastCleanup := some now }

def nextTimer (self : LanSignaler) (now : Instant) : Duration :=
  let wait := self.config.addressTimeout
  let wait :=
    match self.config.broadcastAddress with
    | none => wait
    | some _ =>
      match self.lastBroadcast with
      | some last => min wait (Instant.since (last + self.config.broadcastInterval) now)
      | none => 0
  self.pending.foldl (fun wait pending => min wait (pending.nextSend.since now)) wait

def handleUpdate (self : LanSignaler) (now : Instant) : LanSignaler × Except LanSignalerError Unit :=
  match (self.retransmit crypto now).broadcast crypto now with
  | (self, .error e) => (self, .error e)
  | (self, .ok ()) =>
    let expired := self.expire now
    (expired.push (.wait (expired.nextTimer now)), .ok ())

def handle (self : LanSignaler) (input : LanSignalerInput) : LanSignaler × Except LanSignalerError Unit :=
  match input with
  | .datagram buf addr now => self.handleDatagram crypto buf addr now
  | .signal signal now => self.handleSignal crypto signal now
  | .setServerData data => ({ self with serverData := some data }, .ok ())
  | .update now => self.handleUpdate crypto now

/-! ## One signal, end to end -/

theorem sendSignal_ok {signal : Signal} {target : UInt64} (sent : (self.sendSignal crypto signal target).2 = .ok ()) :
    ∃ addr buf, self.address target = some addr ∧
      Discovery.encode crypto (.message ⟨target, signal.text⟩) self.networkId = .ok buf ∧
      self.sendSignal crypto signal target = (self.push (.datagram buf addr), .ok ()) := by
  unfold sendSignal at sent ⊢
  cases known : self.address target with
  | none => simp [known] at sent
  | some addr =>
    cases encoded : Discovery.encode crypto (.message ⟨target, signal.text⟩) self.networkId with
    | error e => simp [known, encoded] at sent
    | ok buf => exact ⟨addr, buf, rfl, rfl, rfl⟩

/-- What an accepted signal does: its datagram is queued, and an entry is added when there are retries. -/
theorem handleSignal_ok {signal : Signal} {now : Instant}
    (accepted : (self.handleSignal crypto signal now).2 = .ok ()) :
    ∃ target addr buf, Signal.parseU64 signal.networkId.toList = .ok target ∧
      self.address target = some addr ∧
      Discovery.encode crypto (.message ⟨target, signal.text⟩) self.networkId = .ok buf ∧
      (self.handleSignal crypto signal now).1 =
        { self.push (.datagram buf addr) with
          pending := self.pending ++
            (if self.config.signalRetries > 0 then
              [⟨signal, target, 1, now + retryInterval self.config signal⟩] else []) } := by
  unfold handleSignal at accepted ⊢
  cases parsed : Signal.parseU64 signal.networkId.toList with
  | error e => simp [parsed] at accepted
  | ok target =>
    have sent : (self.sendSignal crypto signal target).2 = .ok () := by
      simp only [parsed] at accepted
      cases outcome : self.sendSignal crypto signal target with
      | mk after result =>
        cases result with
        | error e => simp [outcome] at accepted
        | ok => rfl
    obtain ⟨addr, buf, known, encoded, result⟩ := sendSignal_ok crypto sent
    refine ⟨target, addr, buf, rfl, known, encoded, ?_⟩
    simp only [result, push]
    split <;> simp

theorem messageSignal_text (networkId sender : UInt64) (signal : Signal) :
    messageSignal networkId sender ⟨networkId, signal.text⟩ =
      some { signal with networkId := toString sender.toNat } := by
  have nonempty : signal.text ≠ "" := signal.text_ne_of_short (by decide)
  have notPing : signal.text ≠ ping := signal.text_ne_of_short (by decide)
  unfold messageSignal
  rw [if_neg (by simp [nonempty, notPing]), Signal.fromString_text]
  rfl

theorem handleDatagram_message {buf : Bytes} {addr : SocketAddr} {now : Instant} {sender : UInt64}
    {message : MessagePacket} (decoded : Discovery.decode crypto buf = .ok (.message message, sender))
    (other : sender ≠ self.networkId) (unpinned : self.pinnedElsewhere sender addr now = false) :
    self.handleDatagram crypto buf addr now =
      ({ self with addresses := self.addresses.insert sender ⟨addr, now⟩ }.handleMessage sender message,
        .ok ()) := by
  unfold handleDatagram
  rw [decoded]
  simp only [if_neg other, unpinned]
  rfl

/-- An accepted signal reaches its target as it was given and nobody else. -/
theorem signal_delivered {a b : LanSignaler} {signal : Signal} {sentAt : Instant}
    (different : a.networkId ≠ b.networkId)
    (addressed : Signal.parseU64 signal.networkId.toList = .ok b.networkId)
    (accepted : (a.handle crypto (.signal signal sentAt)).2 = .ok ()) :
    ∃ buf dest, (a.handle crypto (.signal signal sentAt)).1.output = a.output ++ [.datagram buf dest] ∧
      (∀ addr now, b.pinnedElsewhere a.networkId addr now = false →
        (b.handle crypto (.datagram buf addr now)).2 = .ok () ∧
        (b.handle crypto (.datagram buf addr now)).1.output =
          b.output ++ [.signal { signal with networkId := toString a.networkId.toNat }] ∧
        (b.handle crypto (.datagram buf addr now)).1.pending =
          b.pending.filter fun pending =>
            ¬ (pending.target = a.networkId ∧ pending.signal.connectionId = signal.connectionId)) ∧
      (∀ (c : LanSignaler) addr now, c.networkId ≠ a.networkId → c.networkId ≠ b.networkId →
        (c.handle crypto (.datagram buf addr now)).1.output = c.output) := by
  obtain ⟨target, dest, buf, parsed, -, encoded, after⟩ := handleSignal_ok crypto accepted
  rw [addressed] at parsed
  cases parsed
  have decoded := Discovery.decode_encode crypto encoded
  refine ⟨buf, dest, ?_, ?_, ?_⟩
  · rw [handle, after]
    rfl
  · intro addr now unpinned
    rw [handle, handleDatagram_message crypto decoded different unpinned]
    unfold handleMessage
    rw [messageSignal_text]
    refine ⟨rfl, rfl, ?_⟩
    show b.pending.filter (survives _ _) = _
    apply List.filter_congr
    intro pending _
    simp [survives, Bool.decide_or, imp_iff_not_or]
  · intro c addr now notSender notTarget
    cases pinned : c.pinnedElsewhere a.networkId addr now with
    | true =>
      unfold handle handleDatagram
      simp only [decoded, pinned, if_true, ite_self]
    | false =>
      rw [handle, handleDatagram_message crypto decoded (Ne.symm notSender) pinned]
      unfold handleMessage
      rw [messageSignal, if_pos (.inr (.inr (Ne.symm notTarget)))]

-- the bytes of a number, highest first
def bytesOf (width value : Nat) : Bytes := (Reader.littleEndian width value).reverse

/-- AES-256 and HMAC-SHA256 under the discovery key, for the datagrams of a small conversation. -/
def recordedCrypto : DiscoveryCrypto := .recorded
  [ (bytesOf 16 0x12000000010000000000000000000000,
      bytesOf 16 0x029de6efe70735c4bbe7043306708f17),
    (bytesOf 16 0x000000000c0c0c0c0c0c0c0c0c0c0c0c,
      bytesOf 16 0xff0f8709e13bf6858e2051c321db615e),
    (bytesOf 16 0x12000000020000000000000000000000,
      bytesOf 16 0xf1aabbcb277a70c3d4703bd626aac4fc),
    (bytesOf 16 0x30000200010000000000000000000000,
      bytesOf 16 0xed5708c2f38a913ed435675234e4f907),
    (bytesOf 16 0x00000000020000000000000012000000,
      bytesOf 16 0xef5bc683dfad3c6933fe2965ceccb4d0),
    (bytesOf 16 0x434f4e4e454354524551554553542037,
      bytesOf 16 0x32ff7a6c8a46b5f78f6e0e61d825edec),
    (bytesOf 16 0x206f0e0e0e0e0e0e0e0e0e0e0e0e0e0e,
      bytesOf 16 0xaa75e7dda05d2857be9022f1d7a81426),
    (bytesOf 16 0x2e000200010000000000000000000000,
      bytesOf 16 0xd90ee17deafe40f3579602895a08c7b3),
    (bytesOf 16 0x00000000020000000000000010000000,
      bytesOf 16 0xdf36acef7b16539dbffbc48736dacc03),
    (bytesOf 16 0x43414e44494441544541444420372063,
      bytesOf 16 0x123f5deaf7052e03cf1563d4cbe37d6f),
    (bytesOf 16 0x10101010101010101010101010101010,
      bytesOf 16 0x16b068801060a3aa8ddf5c00d45f5592),
    (bytesOf 16 0x31000200020000000000000000000000,
      bytesOf 16 0xc9a3c76bd529ab07386640ecdec14233),
    (bytesOf 16 0x00000000010000000000000013000000,
      bytesOf 16 0x750b034441f174f7267304ec3e081b08),
    (bytesOf 16 0x434f4e4e454354524553504f4e534520,
      bytesOf 16 0x41c1c04d82587f9ba6f4a45a0582711b),
    (bytesOf 16 0x3720610d0d0d0d0d0d0d0d0d0d0d0d0d,
      bytesOf 16 0x1eb45023b7a839c858ac8060cd7fd138) ]
  [ (bytesOf 20 0x1200000001000000000000000000000000000000,
      bytesOf 32 0xacb5442ee5082a84a7d8a98e8033328671a178be0140f09dd1b620e43a4d154c),
    (bytesOf 20 0x1200000002000000000000000000000000000000,
      bytesOf 32 0x96e3f825d08add9c5656a5d3d2a3722120df6d23f2d52ed964d6493100661957),
    (bytesOf 50 0x3000020001000000000000000000000000000000020000000000000012000000434f4e4e454354524551554553542037206f,
      bytesOf 32 0x24d3ad602f10753bb123d6f46c2bac205cf627aeec27ee415cbed6569c8d9212),
    (bytesOf 48 0x2e0002000100000000000000000000000000000002000000000000001000000043414e44494441544541444420372063,
      bytesOf 32 0x58adef434ff2dfe15576a5ac6eb608a9ef9b14f6de6220fc6d960e9d4d0f8ac6),
    (bytesOf 51 0x3100020002000000000000000000000000000000010000000000000013000000434f4e4e454354524553504f4e534520372061,
      bytesOf 32 0x68e66d48c034b96382baa61ae9ce8bb2b0ddbc3977bad21c484edec59fdf8295) ]
  (by decide +kernel) (by decide +kernel)

-- a signaler that knows the address of network 2
def acquainted : LanSignaler :=
  { new 1 {} with addresses := AList.insert 2 ⟨.v4 0xc0a80002 7551, 0⟩ ∅ }

theorem candidate_delivered : ∃ buf dest,
    (acquainted.handle recordedCrypto (.signal ⟨.candidate, 7, "c", "2"⟩ 0)).1.output = [.datagram buf dest] ∧
      ((new 2 {}).handle recordedCrypto (.datagram buf (.v4 0xc0a80001 7551) 0)).1.output =
        [.signal ⟨.candidate, 7, "c", "1"⟩] := by
  have parsed : Signal.parseU64 "2".toList = .ok (new 2 {}).networkId := by rfl
  have accepted : (acquainted.handle recordedCrypto (.signal ⟨.candidate, 7, "c", "2"⟩ 0)).2 = .ok () := by rfl
  have different : acquainted.networkId ≠ (new 2 {}).networkId := by decide
  obtain ⟨buf, dest, queued, delivered, -⟩ := signal_delivered recordedCrypto different parsed accepted
  obtain ⟨-, output, -⟩ := delivered (.v4 0xc0a80001 7551) 0 rfl
  exact ⟨buf, dest, queued, output⟩

end LanSignaler

end Nethernet
