import SessionEngine.Framing.Split
import SessionEngine.IoError
import SessionEngine.Tls.Fault

/-! The errors of the engine, each with the cause it was raised for and one text. -/

namespace SessionEngine

/-- The callbacks of a handler. -/
inductive Callback where
  | onConnect
  | onReceive
  | onSent
  | onIdle
  | onException
  | onDisconnect
  deriving DecidableEq, Repr, Inhabited

def Callback.name : Callback → String
  | .onConnect => "on_connect"
  | .onReceive => "on_receive"
  | .onSent => "on_sent"
  | .onIdle => "on_idle"
  | .onException => "on_exception"
  | .onDisconnect => "on_disconnect"

/-- Every callback. -/
def Callback.all : List Callback :=
  [.onConnect, .onReceive, .onSent, .onIdle, .onException, .onDisconnect]

def Callback.ofName? (name : String) : Option Callback := all.find? (·.name == name)

/-- An error of a socket, a session, a splitter or the TLS layer. -/
inductive Error where
  /-- No connection to `address` was made. -/
  | connect (address : String) (cause : IoError)
  /-- No message was complete within the read timeout. -/
  | readTimeout (millis : Nat)
  | read (cause : IoError)
  | send (cause : IoError)
  | handshake (fault : Tls.HandshakeFault)
  | splitter (fault : SplitFault)
  | tlsConfig (fault : Tls.ConfigFault)
  | closed
  | handlerPanic (callback : Callback)
  deriving DecidableEq, Repr, Inhabited

namespace Error

def kindName : Error → String
  | .connect .. => "ConnectFailure"
  | .readTimeout _ => "ReadTimeout"
  | .read _ => "ReadFailure"
  | .send _ => "SendFailure"
  | .handshake _ => "HandshakeFailure"
  | .splitter _ => "SplitterFailure"
  | .tlsConfig _ => "TlsConfig"
  | .closed => "Closed"
  | .handlerPanic _ => "HandlerPanic"

/-- The text of an error. -/
def message : Error → String
  | .connect address cause => s!"connection on {address} failed: {cause.text}"
  | .readTimeout millis => s!"read timed out after {millis} ms"
  | .read cause => s!"read failed: {cause.text}"
  | .send cause => s!"send failed: {cause.text}"
  | .handshake fault => s!"TLS handshake failed: {fault.message}"
  | .splitter fault => s!"message splitter failed: {fault.message}"
  | .tlsConfig fault => s!"TLS configuration error: {fault.message}"
  | .closed => "session is closed"
  | .handlerPanic callback => s!"handler panicked in {callback.name}"

/-- The transport failure behind an error. -/
def cause? : Error → Option IoError
  | .connect _ cause => some cause
  | .read cause => some cause
  | .send cause => some cause
  | _ => none

/-- The copy of an error that goes to the handler while the error itself goes to a caller. -/
def replicate : Error → Error
  | .connect address cause => .connect address cause.copy
  | .readTimeout millis => .readTimeout millis
  | .read cause => .read cause.copy
  | .send cause => .send cause.copy
  | .handshake fault => .handshake fault
  | .splitter fault => .splitter fault
  | .tlsConfig fault => .tlsConfig fault
  | .closed => .closed
  | .handlerPanic callback => .handlerPanic callback

/-- Whether a read ran out of time. -/
def isTimeout : Error → Bool
  | .readTimeout _ => true
  | _ => false

/-- Whether the session was closed. -/
def isClosed : Error → Bool
  | .closed => true
  | _ => false

/-- The error of a payload that the writer will never take, or never answers for. -/
def writerGone : Error := .send ⟨.notConnected, "write channel closed"⟩

/-- A protocol fault on a connection whose handshake is over. -/
def ofFault (fault : Tls.Fault) : Error := .read ⟨.invalidData, fault.message⟩

end Error

end SessionEngine
