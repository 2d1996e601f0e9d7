import SessionEngine.Buffer
import SessionEngine.Role
import SessionEngine.Text.Quoted
import SessionEngine.Text.Span
import SessionEngine.Workers

/-! What a socket knows before it connects: where to, as which side, how long to wait, and how much
to buffer. -/

namespace SessionEngine

/-- The kind of transport under a session. -/
inductive Transport where
  | stream
  | datagram
  deriving DecidableEq, Repr, Inhabited

def Transport.name : Transport → String
  | .stream => "Stream"
  | .datagram => "Datagram"

/-- Connection settings. Spans are in nanoseconds. -/
structure Settings where
  host : String
  port : Nat
  role : Role
  transport : Transport := .stream
  readTimeout : Nat := Span.ofMillis 1000
  connectTimeout : Nat := Span.ofMillis 5000
  /-- The most bytes taken from the transport at once. -/
  readChunk : Nat := 1024
  maxBuffer : Nat := Buffer.defaultLimit
  workers : Nat := Workers.defaultThreads 1
  /-- Whether a handler receives the events. -/
  handled : Bool := false
  /-- Whether connections speak TLS. -/
  secured : Bool := false
  deriving DecidableEq, Repr

namespace Settings

/-- The port a connection uses unless another is given. -/
def defaultPort : Nat := 6380

/-- The host a connection uses unless another is given. -/
def defaultHost : String := "127.0.0.1"

/-- Settings for connecting out to `host` and `port`. -/
def client (host : String) (port : Nat) : Settings := { host, port, role := .client }

def server (host : String) (port : Nat) : Settings := { host, port, role := .server }

/-- A pool needs a worker. -/
def withWorkers (s : Settings) (n : Nat) : Settings := { s with workers := max n 1 }

/-- A read takes at least one byte. -/
def withReadChunk (s : Settings) (n : Nat) : Settings := { s with readChunk := max n 1 }

/-- The settings of a connection that a listener with settings `s` accepts. -/
def accepted (s : Settings) : Settings := { s with role := .server }

/-- The address in its written form. -/
def address (s : Settings) : String := s!"{s.host}:{s.port}"

/-- The settings in a form for diagnostics. -/
def describe (s : Settings) : String :=
  "SocketContext \x7b host: " ++ Text.quoted s.host ++ s!", port: {s.port}, connect_model: {s.role.name}" ++
    s!", transport: {s.transport.name}, read_timeout: {Span.render s.readTimeout}" ++
    s!", connect_timeout: {Span.render s.connectTimeout}, workers: {s.workers}" ++
    s!", has_handler: {s.handled}, tls: {s.secured} \x7d"

end Settings

end SessionEngine
