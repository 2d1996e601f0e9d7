import SessionEngine.Bytes

/-! What a message splitter answers about the buffered bytes, and why it may refuse them. -/

namespace SessionEngine

/-- The answer of a splitter: no complete message yet, or one of so many bytes at the head. -/
inductive Split where
  | needMore
  | complete (length : Nat)
  deriving DecidableEq, Repr, Inhabited

/-- Why buffered bytes cannot be cut into messages. -/
inductive SplitFault where
  /-- A frame header announces a body longer than the limit. -/
  | frameTooLarge (length limit : Nat)
  /-- A splitter answered with a message of no bytes. -/
  | emptyMessage
  /-- A splitter answered with a message longer than the buffer. -/
  | beyondBuffer (length buffered : Nat)
  /-- A splitter's own complaint. -/
  | other (text : String)
  deriving DecidableEq, Repr, Inhabited

def SplitFault.message : SplitFault → String
  | .frameTooLarge length limit => s!"frame too large: {length} bytes (max: {limit})"
  | .emptyMessage => "splitter reported an empty message"
  | .beyondBuffer length buffered => s!"split length {length} exceeds {buffered} buffered bytes"
  | .other text => text

end SessionEngine
