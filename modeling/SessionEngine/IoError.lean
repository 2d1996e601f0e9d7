/-! Failures reported by the transport: a kind from a fixed list and a text. -/

namespace SessionEngine

/-- The kinds of transport failure. -/
inductive IoKind where
  | notFound
  | permissionDenied
  | connectionRefused
  | connectionReset
  | connectionAborted
  | notConnected
  | addressInUse
  | networkUnreachable
  | brokenPipe
  | alreadyExists
  | wouldBlock
  | timedOut
  | invalidData
  | unexpectedEof
  | outOfMemory
  | interrupted
  | isADirectory
  | notADirectory
  | invalidFilename
  | invalidInput
  | other
  deriving DecidableEq, Repr, Inhabited

/-- The text of a failure that carries nothing but its kind. -/
def IoKind.text : IoKind → String
  | .notFound => "entity not found"
  | .permissionDenied => "permission denied"
  | .connectionRefused => "connection refused"
  | .connectionReset => "connection reset"
  | .connectionAborted => "connection aborted"
  | .notConnected => "not connected"
  | .addressInUse => "address in use"
  | .networkUnreachable => "network unreachable"
  | .brokenPipe => "broken pipe"
  | .alreadyExists => "entity already exists"
  | .wouldBlock => "operation would block"
  | .timedOut => "timed out"
  | .invalidData => "invalid data"
  | .unexpectedEof => "unexpected end of file"
  | .outOfMemory => "out of memory"
  | .interrupted => "operation interrupted"
  | .isADirectory => "is a directory"
  | .notADirectory => "not a directory"
  | .invalidFilename => "invalid filename"
  | .invalidInput => "invalid input parameter"
  | .other => "other error"

/-- Every kind. -/
def IoKind.all : List IoKind :=
  [.notFound, .permissionDenied, .connectionRefused, .connectionReset, .connectionAborted,
    .notConnected, .addressInUse, .networkUnreachable, .brokenPipe, .alreadyExists, .wouldBlock,
    .timedOut, .invalidData, .unexpectedEof, .outOfMemory, .interrupted, .isADirectory,
    .notADirectory, .invalidFilename, .invalidInput, .other]

def IoKind.name : IoKind → String
  | .notFound => "NotFound"
  | .permissionDenied => "PermissionDenied"
  | .connectionRefused => "ConnectionRefused"
  | .connectionReset => "ConnectionReset"
  | .connectionAborted => "ConnectionAborted"
  | .notConnected => "NotConnected"
  | .addressInUse => "AddrInUse"
  | .networkUnreachable => "NetworkUnreachable"
  | .brokenPipe => "BrokenPipe"
  | .alreadyExists => "AlreadyExists"
  | .wouldBlock => "WouldBlock"
  | .timedOut => "TimedOut"
  | .invalidData => "InvalidData"
  | .unexpectedEof => "UnexpectedEof"
  | .outOfMemory => "OutOfMemory"
  | .interrupted => "Interrupted"
  | .isADirectory => "IsADirectory"
  | .notADirectory => "NotADirectory"
  | .invalidFilename => "InvalidFilename"
  | .invalidInput => "InvalidInput"
  | .other => "Other"

def IoKind.ofName? (name : String) : Option IoKind := all.find? (·.name == name)

theorem IoKind.mem_all (kind : IoKind) : kind ∈ all := by cases kind <;> decide

/-- A failure of the transport. -/
structure IoError where
  kind : IoKind
  text : String
  deriving DecidableEq, Repr, Inhabited

namespace IoError

/-- A failure of the same kind that says the same. -/
def copy (e : IoError) : IoError := ⟨e.kind, e.text⟩

/-- The failure of `kind` that says nothing more. -/
def ofKind (kind : IoKind) : IoError := ⟨kind, kind.text⟩

/-- No route leads to the address. -/
def networkUnreachable : IoError := ⟨.networkUnreachable, "Network is unreachable (os error 101)"⟩

/-- Another listener holds the address. -/
def addressInUse : IoError := ⟨.addressInUse, "Address already in use (os error 98)"⟩

/-- The named file does not exist. -/
def noSuchFile : IoError := ⟨.notFound, "No such file or directory (os error 2)"⟩

/-- A path leads on from a file. -/
def notADirectory : IoError := ⟨.notADirectory, "Not a directory (os error 20)"⟩

/-- A directory was to be read like a file. -/
def isADirectory : IoError := ⟨.isADirectory, "Is a directory (os error 21)"⟩

def nameTooLong : IoError := ⟨.invalidFilename, "File name too long (os error 36)"⟩

/-- A path holds the byte that would end it. -/
def nulInName : IoError := ⟨.invalidInput, "file name contained an unexpected NUL byte"⟩

end IoError

end SessionEngine
