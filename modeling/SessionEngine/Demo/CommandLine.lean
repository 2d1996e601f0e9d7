import SessionEngine.Settings
import SessionEngine.Text.Decimal

/-! The command line of the demo: groups of a flag alone or a flag with a value, read from left to
right. A value is the next argument as it stands, even if it looks like a flag, and the last group
that sets a field wins. The first group that cannot be read ends the program. The main statement is
`parse_append`: what is read of a command line depends on the rest only through the options read
before it. -/

namespace SessionEngine.Demo

structure Options where
  /-- Whether the demo serves or connects. -/
  role : Role := .server
  host : String := Settings.defaultHost
  port : Nat := Settings.defaultPort
  /-- The read timeout in milliseconds. -/
  timeout : Nat := 1000
  cert : Option String := none
  key : Option String := none
  keyPassword : Option String := none
  tls : Bool := false
  deriving DecidableEq, Repr, Inhabited

/-- The flags that stand alone. -/
inductive Switch where
  | server
  | client
  | tls
  deriving DecidableEq, Repr, Inhabited

/-- The flags that take a value. -/
inductive Valued where
  | host
  | port
  | timeout
  | cert
  | key
  | keyPassword
  deriving DecidableEq, Repr, Inhabited

/-- Why the program ends before it has begun. -/
inductive Halt where
  | help
  | version
  | unknown (argument : String)
  | missingValue (flag : Valued)
  | invalidPort
  | invalidTimeout
  deriving DecidableEq, Repr, Inhabited

/-- What an argument is where a flag may stand. -/
inductive Flag where
  | switch (s : Switch)
  | valued (v : Valued)
  | halt (h : Halt)
  deriving DecidableEq, Repr, Inhabited

/-- The name by which a missing value is reported. -/
def Valued.name : Valued → String
  | .host => "--host"
  | .port => "--port"
  | .timeout => "--timeout"
  | .cert => "--cert"
  | .key => "--key"
  | .keyPassword => "--key-password"

/-- Reads one argument. -/
def Flag.ofArgument (argument : String) : Flag :=
  match argument with
  | "--server" => .switch .server
  | "--client" => .switch .client
  | "--tls" => .switch .tls
  | "--host" | "-h" => .valued .host
  | "--port" | "-p" => .valued .port
  | "--timeout" | "-t" => .valued .timeout
  | "--cert" => .valued .cert
  | "--key" => .valued .key
  | "--key-password" => .valued .keyPassword
  | "--help" => .halt .help
  | "--version" | "-v" => .halt .version
  | _ => .halt (.unknown argument)

namespace Options

/-- The largest port number. -/
def maxPort : Nat := UInt16.size - 1

/-- The longest timeout. -/
def maxTimeout : Nat := UInt64.size - 1

/-- The options after a flag that stands alone. -/
def turn (o : Options) : Switch → Options
  | .server => { o with role := .server }
  | .client => { o with role := .client }
  | .tls => { o with tls := true }

def assign (o : Options) (flag : Valued) (value : String) : Except Halt Options :=
  match flag with
  | .host => .ok { o with host := value }
  | .port =>
    match Text.Decimal.natural maxPort value with
    | some port => .ok { o with port }
    | none => .error .invalidPort
  | .timeout =>
    match Text.Decimal.natural maxTimeout value with
    | some timeout => .ok { o with timeout }
    | none => .error .invalidTimeout
  | .cert => .ok { o with cert := some value }
  | .key => .ok { o with key := some value }
  | .keyPassword => .ok { o with keyPassword := some value }

/-- Reads the groups that follow the options `o`. -/
def read (o : Options) : List String → Except Halt Options
  | [] => .ok o
  | argument :: rest =>
    match Flag.ofArgument argument, rest with
    | .switch s, rest => (o.turn s).read rest
    | .halt h, _ => .error h
    | .valued v, [] => .error (.missingValue v)
    | .valued v, value :: rest =>
      match o.assign v value with
      | .ok o => o.read rest
      | .error h => .error h

def parse (arguments : List String) : Except Halt Options := ({} : Options).read arguments

end Options

def helpText : String := "
aionet - An Asynchronous Network I/O Engine (demo)

USAGE:
    aionet [--server | --client] [OPTIONS]

OPTIONS:
        --server             Run the echo server (default)
        --client             Run the interactive client
    -h, --host <HOST>        Host to bind or connect to (default: 127.0.0.1)
    -p, --port <PORT>        Port (default: 6380)
    -t, --timeout <MS>       Read timeout and heartbeat interval (default: 1000)
        --cert <PATH>        PEM certificate (enables TLS on the server)
        --key <PATH>         PEM private key
        --key-password <PW>  Password for an encrypted PKCS#8 key
        --tls                Client: connect with TLS
    -v, --version            Print version information
        --help               Print this help message

EXAMPLES:
    aionet --server --port 6380
    aionet --client --port 6380
    aionet --server --cert cert.pem --key key.pem
    aionet --client --tls

"

def versionText : String := "0.1.0"

/-- What the program leaves behind: its exit code and what it printed. -/
structure Outcome where
  code : Nat
  out : String
  err : String
  deriving DecidableEq, Repr, Inhabited

/-- What a program that ends before it has begun leaves behind. -/
def Halt.outcome : Halt → Outcome
  | .help => ⟨0, helpText, ""⟩
  | .version => ⟨0, s!"aionet version {versionText}\n", ""⟩
  | .unknown argument => ⟨1, helpText, s!"Unknown argument: {argument}\n"⟩
  | .missingValue flag => ⟨1, "", s!"Error: {flag.name} requires a value\n"⟩
  | .invalidPort => ⟨1, "", "Error: invalid port number\n"⟩
  | .invalidTimeout => ⟨1, "", "Error: invalid timeout\n"⟩

namespace Options

/-- Groups that are read whole leave the rest to be read with their options. -/
theorem read_append {o o' : Options} {arguments : List String}
    (h : o.read arguments = .ok o') (rest : List String) :
    o.read (arguments ++ rest) = o'.read rest := by
  fun_induction read o arguments with
  | case1 o => simp_all
  | case2 o argument rest' s hs ih => simp_all [read]
  | case3 => simp at h
  | case4 => simp at h
  | case5 o argument v value rest' hv o2 ha ih => simp_all [read]
  | case6 => simp at h

theorem parse_append {o : Options} {arguments : List String} (h : parse arguments = .ok o)
    (rest : List String) : parse (arguments ++ rest) = o.read rest := read_append h rest

end Options

end SessionEngine.Demo
