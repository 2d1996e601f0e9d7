import SessionEngine.Handler
import SessionEngine.Text.Blank
import SessionEngine.Text.Lossy

/-! The handlers of the demo. The server answers every line with the line in a frame; the client
prints what it receives and hangs up when the server is silent too often. Both beat when nothing
comes in. The main statement is `echo_receive`: the server's answer is sent as a reply. -/

namespace SessionEngine.Demo

/-- The token that asks for a sign of life. -/
def ping : Bytes := Bytes.ofString "PINGq"

/-- The token that gives one. -/
def pong : Bytes := Bytes.ofString "PONGq"

/-- The unanswered pings in a row that the client puts up with. -/
def tolerance : Nat := 5

/-- A message as text, without white space at its end. -/
def lineText (message : Bytes) : String := Text.trimEnd (Text.Lossy.text message)

def answer (line : Bytes) : Bytes := Bytes.ofString s!"==== {lineText line} ====\r\n"

variable {ε : Type}

/-- The handler of the server. -/
def echo : Handler Unit ε where
  respond _ e := match e with
    | .connect => .attach ping pong fun _ => .nothing ()
    | .receive line => .done () (some (answer line))
    | .idle => .attach ping pong fun
      | none => .nothing ()
      | some slot => .beat slot fun _ => .nothing ()
    | e => Handler.standard () e

/-- What a program printed. -/
structure Printed where
  out : String := ""
  err : String := ""
  deriving DecidableEq, Repr, Inhabited

namespace Printed

/-- One more line of output. -/
def line (p : Printed) (text : String) : Printed := { p with out := p.out ++ text ++ "\n" }

/-- One more line of complaint. -/
def complain (p : Printed) (text : String) : Printed := { p with err := p.err ++ text ++ "\n" }

end Printed

/-- Whether the heartbeat in place `slot` says that the peer is gone. -/
def givesUp (s : Session ε) (slot : Nat) : Bool :=
  match s.heartbeats[slot]? with
  | none => false
  | some h => h.shouldClose tolerance

/-- The handler of the client. -/
def printing : Handler Printed ε where
  respond p e := match e with
    | .connect => .attach ping pong fun _ => .nothing p
    | .receive message => .nothing (p.line (lineText message))
    | .sent _ => .nothing p
    | .idle => .attach ping pong fun
      | none => .nothing p
      | some slot => .beat slot fun _ => .inspect fun s =>
        if givesUp s slot then .close fun _ => .nothing p else .nothing p
    | .exception error => .close fun _ => .nothing (p.complain s!"Error: {error.message}")
    | .disconnect => .nothing (p.line "Disconnected.")

theorem echo_receive [Tls.RecordEngine ε] (line : Bytes) (now : Nat) (s : Session ε) :
    echo.deliver now () (.receive line) s = ((), Handler.sendReply (answer line) s) := rfl

end SessionEngine.Demo
