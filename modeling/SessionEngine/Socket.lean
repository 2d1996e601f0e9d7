import SessionEngine.Delivery
import SessionEngine.Tls.Handshake
import SessionEngine.Traffic

/-! Sockets: a session on a connection of its own. Opening connects, runs the TLS handshake, and makes
the session connected; when anything fails on the way, the handler hears of the failure and the
session is closed. The session may also be closed by somebody else while it opens. An opening whose
handshake never ends never ends either, and gives no result. The main statements are
`start_of_started`, by which a socket opens once, and `start_of_stopped`, by which it does not open on
a pool that is shut down. -/

namespace SessionEngine

/-- The points of an opening at which somebody else may have closed the session. -/
inductive OpeningPoint where
  | connecting
  | connected
  /-- The handshake is over and the TLS layer is not installed. -/
  | secured
  /-- The TLS layer is installed, and what came with the handshake is not fed. -/
  | installed
  /-- The writer is not installed. -/
  | fed
  /-- Everything is ready but the stage. -/
  | ready
  /-- The session is connected and the handler has not been told. -/
  | announcing
  /-- The opening has failed and the handler has not been told. -/
  | failing
  deriving DecidableEq, Repr, Inhabited

/-- What comes of the TLS layer that a socket is to have. -/
inductive Securing (ε : Type) where
  /-- It is to have none. -/
  | plain
  /-- The layer cannot be made. -/
  | unmade (e : Error)
  /-- The handshake fails. -/
  | failed (e : Error)
  /-- The handshake succeeds, and plaintext may have come with it. -/
  | secured (channel : Tls.Channel ε)
  /-- The handshake never ends. -/
  | endless

namespace Securing

variable {ε : Type}

/-- What comes of a layer, if it can be made, that has `millis` milliseconds for its handshake over
`stream`. -/
def attempt [Tls.RecordEngine ε] (stream : Tls.Stream) (millis : Nat) :
    Except Error (Tls.Channel ε) → Securing ε
  | .error e => .unmade e
  | .ok channel =>
    match channel.handshake millis stream with
    | (none, _) => .endless
    | (some (.error e), _) => .failed e
    | (some (.ok ()), channel, _) => .secured channel

/-- Whether a handshake begins. -/
def shakes : Securing ε → Bool
  | .plain | .unmade _ => false
  | .failed _ | .secured _ | .endless => true

end Securing

/-- What an opening meets. -/
structure Opening (ε : Type) where
  /-- The local and the remote address of the connection, if it is made. -/
  connection : Except IoError (Option String × Option String)
  securing : Securing ε := .plain
  /-- Whether somebody closes the session just before the given point. -/
  closesBefore : OpeningPoint → Bool := fun _ => false
  /-- What is said of the task of the opening, if the pool ends while it waits for the connection or for
  the handshake: somebody has closed the session, and the pool ends with the disconnect. -/
  lost : Option String := none

namespace Opening

/-- The failure of a connection that is not made in time. -/
def timedOut : IoError := ⟨.timedOut, "connect timed out"⟩

variable {ε : Type} [Tls.RecordEngine ε]

def reach (o : Opening ε) (point : OpeningPoint) (s : Session ε) : Session ε :=
  if o.closesBefore point then s.close.2 else s

/-- Waits for the handshake and installs the TLS layer, if the socket is to have one; plaintext that came
with the handshake is fed. -/
def secure (o : Opening ε) (now : Nat) (s : Session ε) : Option (Except Error Unit) × Session ε :=
  match o.securing with
  | .plain => (some (.ok ()), s)
  | .unmade e | .failed e => (some (.error e), s)
  | .endless => (none, s)
  | .secured channel =>
    let (early, channel) := channel.takePlaintext
    let s := o.reach .installed { o.reach .secured s with tls := some channel }
    if early.isEmpty then (some (.ok ()), s)
    else
      let (result, s) := s.feedPlaintext now early
      (some result, s)

/-- Makes a session connected, or says why it is not. -/
def establish (o : Opening ε) (now : Nat) (s : Session ε) : Option (Except Error Unit) × Session ε :=
  let s := o.reach .connecting s
  match o.connection with
  | .error cause => (some (.error (.connect s.settings.address cause)), s)
  | .ok (here, there) =>
    match o.secure now (o.reach .connected (s.setAddresses here there)) with
    | (some (.ok ()), s) =>
      let s := o.reach .fed s
      match (o.reach .ready { s with writer := s.writer.install }).advance .connecting .connected with
      | (true, s) => (some (.ok ()), s)
      | (false, s) => (some (.error .closed), s)
    | halted => halted

/-- Opens a session: it is counted and the handler is told, or the failure is an exception and the
session is closed. -/
def run (o : Opening ε) (now : Nat) (s : Session ε) (t : Traffic) :
    Option (Except Error Unit) × Session ε × Traffic :=
  match o.establish now s with
  | (none, s) => (none, s, t)
  | (some (.ok ()), s) => (some (.ok ()), (o.reach .announcing s).fire .connect, t.connectionOpened)
  | (some (.error e), s) =>
    (some (.error e), ((o.reach .failing s).fire (.exception e.replicate)).close.2, t)

/-- The session when the pool ends under its opening: the opening waits for the handshake if there is one
and the connection is made, and else for the connection. -/
def strand (o : Opening ε) (s : Session ε) : Session ε :=
  match o.connection, o.securing.shakes with
  | .ok (here, there), true => (s.setAddresses here there).close.2
  | _, _ => s.close.2

end Opening

/-- A session with the pool it runs on and its counters. -/
structure Socket (μ ε : Type) where
  delivery : Delivery μ ε
  pool : Workers
  traffic : Traffic := .zero
  started : Bool := false

namespace Socket

variable {ε : Type}

def session (k : Socket μ ε) : Session ε := k.delivery.session

/-- The socket with its session in another state. -/
def withSession (k : Socket μ ε) (s : Session ε) : Socket μ ε :=
  { k with delivery := { k.delivery with session := s } }

/-- A socket with a pool of its own; delivery has begun. -/
def new (session : Session ε) (handler : Option (Handler μ ε)) (memory : μ) : Socket μ ε :=
  let pool := Workers.start session.settings.workers
  let delivery : Delivery μ ε := { session, handler, memory, ownsPool := true }
  { delivery := delivery.start pool, pool }

/-- The failure of a socket that was started before. -/
def alreadyStarted : IoError := ⟨.alreadyExists, "socket already started"⟩

/-- The socket in a form for diagnostics. -/
def describe (k : Socket μ ε) : String :=
  s!"AsyncSocket \x7b session: {k.session.describe}, owned: {k.delivery.ownsPool} \x7d"

variable [Tls.RecordEngine ε]

/-- Starts the socket; there is no result where the handshake never ends. -/
def start (k : Socket μ ε) (now : Nat) (o : Opening ε) : Option (Except Error Unit) × Socket μ ε :=
  if k.started then (some (.error (.connect k.session.settings.address alreadyStarted)), k)
  else if k.pool.stopped then (some (.error .closed), { k with started := true })
  else match o.lost with
    | some text =>
      (some (.error (.connect k.session.settings.address ⟨.other, text⟩)),
        { k.withSession (o.strand k.session) with started := true })
    | none =>
      let (result, session, traffic) := o.run now k.session k.traffic
      (result, { k.withSession session with started := true, traffic })

/-- Delivers what is queued, at most `fuel` events. -/
def settle (k : Socket μ ε) (now fuel : Nat) : Socket μ ε :=
  let (delivery, pool) := k.delivery.settle now fuel k.pool
  { k with delivery, pool }

/-- Closes the session. -/
def close (k : Socket μ ε) : Bool × Socket μ ε :=
  let (first, s) := k.session.close
  (first, k.withSession s)

/-- A socket does not open on a pool that is shut down. -/
theorem start_of_stopped {k : Socket μ ε} (hs : k.started = false) (hp : k.pool.stopped = true)
    (now : Nat) (o : Opening ε) : (k.start now o).1 = some (.error .closed) := by
  simp [start, hs, hp]

end Socket

end SessionEngine
