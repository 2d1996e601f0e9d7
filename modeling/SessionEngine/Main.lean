import SessionEngine.Demo.Program

/-! The command line of the demo: it reads the arguments, the files that they name and the lines that
are typed, and prints. No transport is joined to it, so every address can be bound and none can be
reached. -/

namespace SessionEngine

def fileFailure : IO.Error → IoError
  | .noFileOrDirectory .. => .noSuchFile
  | .permissionDenied .. => ⟨.permissionDenied, "Permission denied (os error 13)"⟩
  | e => ⟨.other, toString e⟩

def readFileBytes (path : String) : IO (Except IoError Bytes) := do
  try
    return .ok (← IO.FS.readBinFile path).toList
  catch e => return .error (fileFailure e)

def namedFiles (arguments : List String) : List String :=
  match Demo.Options.parse arguments with
  | .ok o => [o.cert, o.key].filterMap id
  | .error _ => []

/-- The machine that the program runs on. -/
def machine (files : List (String × Except IoError Bytes)) : Demo.Machine where
  files path := (files.lookup path).getD (.error .noSuchFile)
  bind s := .ok s.address
  connect _ := .error .networkUnreachable

/-- The lines that are typed until the input ends. -/
partial def typedLines (input : IO.FS.Stream) : IO (List String) := do
  let line ← input.getLine
  if line.isEmpty then return []
  return (if line.endsWith "\n" then (line.dropEnd 1).toString else line) :: (← typedLines input)

/-- Waits until the program is interrupted. -/
partial def waitForInterrupt : IO Unit := do
  IO.sleep 1000
  waitForInterrupt

/-- Prints what the program leaves behind. -/
def report (outcome : Demo.Outcome) : IO UInt32 := do
  IO.print outcome.out
  IO.eprint outcome.err
  return UInt32.ofNat outcome.code

/-- Runs the demo on the given arguments, and gives its exit code. -/
def runDemo (arguments : List String) : IO UInt32 := do
  let files ← (namedFiles arguments).mapM fun path => return (path, ← readFileBytes path)
  match Demo.run (machine files) arguments with
  | .ended outcome => report outcome
  | .serving banner .. =>
    IO.print banner
    waitForInterrupt
    return 0
  | .connecting =>
    waitForInterrupt
    return 0
  | .connected client =>
    let lines ← if client.ended.isSome then pure [] else typedLines (← IO.getStdin)
    report (client.run 0 (lines.map fun line => (0, .typed line))).outcome

end SessionEngine

/-- The entry point of the program. -/
def main (arguments : List String) : IO UInt32 := SessionEngine.runDemo arguments
