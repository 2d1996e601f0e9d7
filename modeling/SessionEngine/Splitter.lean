import SessionEngine.Error
import SessionEngine.Framing.Length
import SessionEngine.Framing.Line
import SessionEngine.Framing.Silence
import SessionEngine.Stage

/-! Splitters: what cuts the bytes that a session has buffered into messages. -/

namespace SessionEngine

/-- What a splitter looks at. -/
structure SplitView where
  bytes : Bytes
  /-- The time since the last byte came. -/
  idle : Option Nat
  /-- The read timeout of the session. -/
  window : Nat
  stage : Stage
  deriving DecidableEq, Repr

/-- Says how many bytes at the head make a message. -/
abbrev Splitter := SplitView → Except Error Split

namespace Splitter

/-- All bytes are a message once the peer has been silent for the read timeout. -/
def silence : Splitter := fun v => .ok (Silence.decide v.bytes.length v.idle v.window)

/-- A message ends with a line feed. -/
def line : Splitter := fun v => .ok (Line.find v.bytes)

/-- A message is a header with the length of the body, and the body of at most `limit` bytes. -/
def length (limit : Nat) : Splitter := fun v => (Length.find limit v.bytes).mapError .splitter

end Splitter

end SessionEngine
