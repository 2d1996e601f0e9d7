import SessionEngine.Tls.Channel

/-! Running the handshake of a channel to its end, over a stream whose behaviour is given, or against
another channel. When it fails, what the engine still wants to send is offered to the stream, and nothing
limits how long that is waited for. The main statement is `drive_ok`: a handshake that succeeds leaves the
engine out of it. -/

namespace SessionEngine.Tls

/-- What a read from a stream gives. -/
inductive Arrival where
  | data (bytes : Bytes)
  | ended
  | failed (cause : IoError)
  deriving DecidableEq, Repr, Inhabited

/-- What becomes of a write to a stream. -/
inductive WriteOutcome where
  | done
  | failed (cause : IoError)
  /-- The stream takes nothing more, for as long as the write is waited for. -/
  | blocked
  deriving DecidableEq, Repr, Inhabited

/-- A stream: what its reads give, one after the other and then silence; what becomes of its writes,
the ones that are not listed being done; and the bytes that were offered to it so far. -/
structure Stream where
  arrivals : List Arrival
  writes : List WriteOutcome := []
  offered : List Bytes := []
  deriving DecidableEq, Repr

namespace Stream

/-- The stream after `data` was offered, and what became of it. -/
def write (s : Stream) (data : Bytes) : WriteOutcome × Stream :=
  (s.writes.headD .done, { s with writes := s.writes.tail, offered := s.offered ++ [data] })

end Stream

namespace Channel

variable {ε : Type} [RecordEngine ε]

/-- The fault of a handshake in which an error was met. -/
def handshakeFault : Error → HandshakeFault
  | .handshake fault => fault
  | e => .other e.message

/-- Offers what the engine wants to send. -/
def flush (c : Channel ε) (millis : Nat) (s : Stream) :
    Except HandshakeFault Unit × Channel ε × Stream :=
  let (out, c) := c.takeOutbound
  if out.isEmpty then (.ok (), c, s)
  else match s.write out with
    | (.done, s) => (.ok (), c, s)
    | (.failed cause, s) => (.error (.other cause.text), c, s)
    | (.blocked, s) => (.error (.timedOut millis), c, s)

/-- Takes in what a read gave. -/
def hear (c : Channel ε) : Arrival → Except HandshakeFault Unit × Channel ε
  | .ended | .data [] => (.error .hungUp, c)
  | .failed cause => (.error (.other cause.text), c)
  | .data bytes =>
    let (result, c) := c.ingest bytes
    (result.mapError handshakeFault, c)

/-- Writes and reads until the handshake is over; the reads give what is listed and then silence. -/
def drive (c : Channel ε) (millis : Nat) (s : Stream) (arrivals : List Arrival) :
    Except HandshakeFault Unit × Channel ε × Stream :=
  let (flushed, c, s) := c.flush millis s
  if flushed.toBool = false ∨ c.handshaking = false then (flushed, c, s)
  else match arrivals with
    | [] => (.error (.timedOut millis), c, s)
    | arrival :: rest =>
      match c.hear arrival with
      | (.error fault, c) => (.error fault, c, s)
      | (.ok (), c) => c.drive millis s rest
  termination_by structural arrivals

/-- Runs the handshake over `s`. Writing and reading take at most `millis` milliseconds. When they fail, what
the engine still wants to send is offered, whatever becomes of it; that has no limit, and where the stream
never takes it the handshake does not end and gives nothing. -/
def handshake (c : Channel ε) (millis : Nat) (s : Stream) :
    Option (Except Error Unit) × Channel ε × Stream :=
  match c.drive millis s s.arrivals with
  | (.ok (), c, s) => (some (.ok ()), c, s)
  | (.error fault, c, s) =>
    let (out, c) := c.takeOutbound
    if out.isEmpty then (some (.error (.handshake fault)), c, s)
    else match s.write out with
      | (.blocked, s) => (none, c, s)
      | (_, s) => (some (.error (.handshake fault)), c, s)

/-- A handshake that succeeds is over. -/
theorem drive_ok {c c' : Channel ε} {millis : Nat} {s s' : Stream} {arrivals : List Arrival}
    (h : c.drive millis s arrivals = (.ok (), c', s')) : c'.handshaking = false := by
  fun_induction drive c millis s arrivals with
  | case1 _ _ _ _ _ _ hflush hend =>
    obtain ⟨rfl, rfl, rfl⟩ := h
    simpa [Except.toBool] using hend
  | case2 => simp at h
  | case3 => simp at h
  | case4 _ _ _ _ _ _ _ _ _ _ _ ih => exact ih h

end Channel

/-! ### Two channels against each other -/

/-- One side of a handshake between two channels over a pipe each way. -/
structure Party (ε : Type) where
  channel : Channel ε
  /-- The bytes in the pipe to this side. -/
  inbox : Bytes := []
  /-- The bytes that this side wants to write and that the pipe had no room for. -/
  unsent : Bytes := []
  /-- How the handshake ended for this side, once it has. -/
  outcome : Option (Except HandshakeFault Unit) := none

namespace Party

variable {ε : Type} [RecordEngine ε]

/-- The most bytes that a party reads at once. -/
def readSize : Nat := 4096

/-- The party after it wrote what a pipe has room for, and what that was. -/
def push (p : Party ε) (room : Nat) : Party ε × Bytes :=
  ({ p with unsent := p.unsent.drop room }, p.unsent.take room)

/-- The party with what its channel wants to send as what it wants to write. -/
def load (p : Party ε) : Party ε :=
  let (out, channel) := p.channel.takeOutbound
  { p with channel, unsent := p.unsent ++ out }

/-- The party after it has read from its pipe, or has found its handshake over. -/
def pull (p : Party ε) : Party ε :=
  if !p.channel.handshaking then { p with outcome := some (.ok ()) }
  else if p.inbox.isEmpty then p
  else
    let p' := { p with inbox := p.inbox.drop readSize }
    match p.channel.ingest (p.inbox.take readSize) with
    | (.ok (), channel) => { p' with channel }.load
    | (.error e, channel) =>
      { p' with channel, outcome := some (.error (Channel.handshakeFault e)) }.load

/-- One turn of a party whose pipe to the other one has room for `room` bytes: it writes if there is
something to write, and otherwise reads if it is not through. The bytes that it writes come with it. -/
def turn (p : Party ε) (room : Nat) : Party ε × Bytes :=
  if !p.unsent.isEmpty then p.push room
  else if p.outcome.isSome then (p, [])
  else (p.pull, [])

/-- Whether a party can do nothing before the other one does: it is through or has nothing to read, and
it has nothing to write or no room for it. -/
def waits (p : Party ε) (room : Nat) : Bool :=
  if !p.unsent.isEmpty then room == 0
  else p.outcome.isSome || (p.channel.handshaking && p.inbox.isEmpty)

/-- Turns of both parties until neither can go on, at most `rounds` times, over pipes that hold `size`
bytes. -/
def run (size : Nat) : (rounds : Nat) → Party ε → Party ε → Party ε × Party ε
  | 0, a, b => (a, b)
  | rounds + 1, a, b =>
    let (a', fromA) := a.turn (size - b.inbox.length)
    let b := { b with inbox := b.inbox ++ fromA }
    let (b', fromB) := b.turn (size - a'.inbox.length)
    let a' := { a' with inbox := a'.inbox ++ fromB }
    if a'.waits (size - b'.inbox.length) && b'.waits (size - a'.inbox.length) then (a', b')
    else run size rounds a' b'

/-- How the handshake ended for a party that had `millis` milliseconds for it. Whoever still waits then has
run out of time; but a party whose handshake has failed waits without a limit for room for what it has not
written, and has no result before. -/
def result (p : Party ε) (millis : Nat) : Option (Except Error Unit) :=
  match p.outcome with
  | none => some (.error (.handshake (.timedOut millis)))
  | some (.ok ()) => some (.ok ())
  | some (.error fault) => if p.unsent.isEmpty then some (.error (.handshake fault)) else none

/-- The most turns in a handshake. -/
def maxRounds : Nat := 65536

/-- The bytes that a pipe holds if nothing else is said. -/
def pipeSize : Nat := 65536

/-- The handshake of two channels over two empty pipes that hold `size` bytes. -/
def handshake (size : Nat) (a b : Channel ε) : Party ε × Party ε :=
  run size maxRounds ({ channel := a : Party ε }).load ({ channel := b : Party ε }).load

end Party

end SessionEngine.Tls
