import SessionEngine.Demo.CommandLine
import SessionEngine.Demo.Handlers
import SessionEngine.Listener
import SessionEngine.Socket.ReadLoop
import SessionEngine.Tls.Engine.Channel

/-! The demo as a whole: the command line is read, the TLS policy loaded, and then the program serves
or connects on the machine it is given. A failure is printed with its causes, outermost first. The
main statements are `run_of_halt`, by which a command line that cannot be read keeps the program from
doing anything, and `render_no_cause`. -/

namespace SessionEngine.Demo

/-- What the demo runs on. -/
structure Machine where
  files : Tls.FileReader
  /-- Binds the address of the settings, and gives the one that was bound. -/
  bind : Settings → Except IoError String
  /-- Connects to the address of the settings, and gives the local and the remote address. -/
  connect : Settings → Except IoError (Option String × Option String)
  /-- The stream that a TLS handshake runs over. -/
  stream : Tls.Stream := { arrivals := [] }

/-- A failure as the user is told of it: what was being done, and the causes, outermost first. -/
structure Report where
  doing : String
  causes : List String
  deriving DecidableEq, Repr, Inhabited

namespace Report

/-- A text behind a label; what follows a line feed is indented as far as the label is long. -/
def indented (label text : String) : String :=
  let margin := String.ofList (label.toList.map fun _ => ' ')
  label ++ String.intercalate ("\n" ++ margin) (text.splitOn "\n")

/-- The label of cause `n`: a number in five places. -/
def label (n : Nat) : String :=
  let digits := toString n
  String.ofList (List.replicate (5 - digits.length) ' ') ++ digits ++ ": "

/-- The causes in their written form; they are numbered if there are several. -/
def renderCauses : List String → String
  | [] => ""
  | [cause] => "\n\nCaused by:\n" ++ indented "    " cause
  | causes =>
    "\n\nCaused by:\n" ++
      String.intercalate "\n" (causes.mapIdx fun n cause => indented (label n) cause)

/-- The written form of a report. -/
def render (r : Report) : String := "Error: " ++ r.doing ++ renderCauses r.causes ++ "\n"

/-- The report of an error that was met while `doing` something. -/
def ofError (doing : String) (e : Error) : Report :=
  ⟨doing, e.message :: (e.cause?.map (·.text)).toList⟩

/-- The report of an error that says itself what was being done. -/
def ofBareError (e : Error) : Report := ⟨e.message, (e.cause?.map (·.text)).toList⟩

theorem render_no_cause (doing : String) : render ⟨doing, []⟩ = "Error: " ++ doing ++ "\n" := by
  simp [render, renderCauses]

end Report

namespace Options

/-- Whether TLS was asked for. -/
def wantsTls (o : Options) : Bool :=
  match o.role with
  | .server => o.cert.isSome || o.key.isSome
  | .client => o.tls || o.cert.isSome

def policy (o : Options) (files : Tls.FileReader) : Except Report (Option Tls.Policy) :=
  if o.wantsTls then
    match Tls.Policy.load files
        { certPath := o.cert, keyPath := o.key, keyPassword := o.keyPassword } with
    | .ok policy => .ok (some policy)
    | .error fault => .error (.ofError "loading TLS material" (.tlsConfig fault))
  else .ok none

def settings (o : Options) (secured : Bool) : Settings :=
  { host := o.host, port := o.port, role := o.role, readTimeout := Span.ofMillis o.timeout,
    handled := true, secured }

end Options

/-- The most events that are delivered at a time. -/
def burst : Nat := 1000

/-- What the client meets once it is connected, and when. -/
inductive Happening where
  | typed (line : String)
  | read (outcome : ReadOutcome)
  deriving DecidableEq, Repr, Inhabited

/-- The client at work. -/
structure Client where
  socket : Socket Printed Tls.Engine
  /-- Whether the read loop goes on. -/
  reading : Bool := true
  /-- How the client has ended: with a report, or without one. -/
  ended : Option (Option Report) := none

namespace Client

def printed (c : Client) : Printed := c.socket.delivery.memory

/-- The client after its handler or its user printed. -/
def print (c : Client) (f : Printed → Printed) : Client :=
  { c with socket := { c.socket with
      delivery := { c.socket.delivery with memory := f c.socket.delivery.memory } } }

/-- Closes the socket and delivers what is left. -/
def finish (c : Client) (now : Nat) (report : Option Report) : Client :=
  { c with socket := c.socket.close.2.settle now burst, ended := some report }

/-- The client after something has happened. -/
def meet (c : Client) (now : Nat) (h : Happening) : Client :=
  if c.ended.isSome then c
  else match h with
    | .typed line =>
      if !c.socket.session.isConnected then c.finish now none
      else match c.socket.session.send (Bytes.ofString (line ++ "\n")) with
        | (.ok (), s) => { c with socket := (c.socket.withSession s).settle now burst }
        | (.error e, s) =>
          { c with socket := c.socket.withSession s }.finish now (some (.ofBareError e))
    | .read outcome =>
      let l : ReadLoop Tls.Engine :=
        { session := c.socket.session, traffic := c.socket.traffic, running := c.reading }
      let l := l.step now outcome
      let socket := { c.socket.withSession l.session with traffic := l.traffic }
      { c with socket := socket.settle now burst, reading := l.running }

/-- The client after everything has happened, and the end of its input. -/
def run (c : Client) (now : Nat) (happenings : List (Nat × Happening)) : Client :=
  let c := happenings.foldl (fun c (time, h) => c.meet time h) c
  if c.ended.isSome then c else c.finish now none

/-- What the program leaves behind when the client has ended. -/
def outcome (c : Client) : Outcome :=
  match c.ended with
  | some (some report) => ⟨1, c.printed.out, c.printed.err ++ report.render⟩
  | _ => ⟨0, c.printed.out, c.printed.err⟩

/-- What comes of the client's TLS layer, if it is to have one. -/
def securing (m : Machine) (settings : Settings) : Option Tls.Policy → Securing Tls.Engine
  | none => .plain
  | some policy =>
    .attempt m.stream (Span.toMillis settings.connectTimeout)
      ((Tls.Channel.client policy settings.host 1 0).mapError .tlsConfig)

/-- A client that connects, with what it prints first; there is none while its handshake goes on. -/
def connect (m : Machine) (o : Options) (policy : Option Tls.Policy) : Option Client :=
  let settings := o.settings policy.isSome
  let socket := Socket.new (.new 1 settings .line) (some printing) ({} : Printed)
  let (result, socket) :=
    socket.start 0 { connection := m.connect settings, securing := securing m settings policy }
  let c : Client := { socket := socket.settle 0 burst }
  result.map fun
    | .ok () => c.print (·.line s!"Connected to {settings.address}. Type lines to send; Ctrl+D quits.")
    | .error e => c.finish 0 (some (.ofError s!"connecting to {settings.address}" e))

end Client

/-- How far the program gets by itself. -/
inductive Run where
  | ended (outcome : Outcome)
  /-- It serves until it is interrupted. -/
  | serving (banner : String) (policy : Option Tls.Policy) (listener : Listener Unit Tls.Engine)
  /-- It is connected, or its connection has failed. -/
  | connected (client : Client)
  /-- Its handshake does not end. -/
  | connecting

/-- The program up to the point where others decide. -/
def run (m : Machine) (arguments : List String) : Run :=
  match Options.parse arguments with
  | .error halt => .ended halt.outcome
  | .ok o =>
    match o.policy m.files with
    | .error report => .ended ⟨1, "", report.render⟩
    | .ok policy =>
      match o.role with
      | .client => (Client.connect m o policy).elim .connecting .connected
      | .server =>
        let settings := o.settings policy.isSome
        match m.bind settings with
        | .error cause =>
          .ended ⟨1, "", (Report.ofError "binding the listener" (.connect settings.address cause)).render⟩
        | .ok address =>
          let l := Listener.new settings .line (some echo) () address 1
          .serving s!"aionet v{versionText} echo server on {address} - Ctrl+C to stop\n" policy l.start.2

/-- What the program leaves behind when it is interrupted as a server, and when the given things
happen to it as a client; nothing as long as it does not end. -/
def Run.outcome (r : Run) (now : Nat) (happenings : List (Nat × Happening)) : Option Outcome :=
  match r with
  | .ended outcome => some outcome
  | .serving banner .. => some ⟨0, banner, ""⟩
  | .connected c => some (c.run now happenings).outcome
  | .connecting => none

/-- A command line that cannot be read keeps the program from doing anything. -/
theorem run_of_halt {arguments : List String} {h : Halt} (hp : Options.parse arguments = .error h)
    (m : Machine) : run m arguments = .ended h.outcome := by
  simp [run, hp]

end SessionEngine.Demo
