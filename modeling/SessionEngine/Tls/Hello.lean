import SessionEngine.Tls.Extension
import SessionEngine.Tls.Version

/-! The hellos by which two sides agree on how to speak: the client's, the server's answer to it, and the
server's request for another one. Extensions are kept as they are written; those that are known are
checked when a hello is read. -/

namespace SessionEngine.Tls

open Wire Wire.Reader

namespace Hello

/-- The bytes of a random value. -/
def randomLength : Nat := 32

/-- A random value. -/
def random : Reader Bytes := take randomLength (.missingData "Random")

/-- The most bytes of the name of a session. -/
def sessionBound : Nat := 32

/-- The name of a session. -/
def session : Reader Bytes := do
  let n ← u8
  if sessionBound < n then throw (.trailingData "SessionID")
  take n (.missingData "SessionID")

def suite : Reader Nat := number 2 "CipherSuite"

/-- A way of compression. -/
def compression : Reader Nat := number 1 "Compression"

def uncompressed : Nat := 0

/-- The number by which plain coordinates are asked for. -/
def plainPoints : Nat := 0

def points : Reader (List Nat) := list8 "ECPointFormats" (number 1 "ECPointFormat")

/-- The number of a version, as extensions write it. -/
def versionCode : Version → Nat
  | .tls12 => 0x0303
  | .tls13 => 0x0304

/-- The version with a number. -/
def version? (code : Nat) : Option Version :=
  [Version.tls12, .tls13].find? (versionCode · == code)

end Hello

/-! ### The client's hello -/

structure ClientHello where
  version : Nat
  random : Bytes
  session : Bytes
  suites : List Nat
  compressions : List Nat
  extensions : List Extension
  deriving DecidableEq, Repr, Inhabited

namespace ClientHello

/-- How the bodies of the known extensions are written. -/
def bodies : List (Nat × Reader Unit) :=
  [(Extension.serverName, skip Extension.host),
   (Extension.status, Extension.statusRequest),
   (Extension.groups, skip (Extension.numbers "NamedGroups" "NamedGroup")),
   (Extension.points, skip Hello.points),
   (Extension.schemes, skip (list (positive u16 .noSignatureSchemes) (number 2 "SignatureScheme"))),
   (Extension.protocols, skip Extension.protocolNames),
   (Extension.clientKinds, skip (list8 "CertificateTypes" (number 1 "CertificateType"))),
   (Extension.serverKinds, skip (list8 "CertificateTypes" (number 1 "CertificateType"))),
   (Extension.extendedSecret, Extension.empty),
   (Extension.compressors,
    skip (list8 "CertificateCompressionAlgorithms" (number 2 "CertificateCompressionAlgorithm"))),
   (Extension.sharedKeys, skip Extension.keys),
   (Extension.earlyData, Extension.empty),
   (Extension.versions, skip (list8 "ProtocolVersions" Extension.version)),
   (Extension.cookie, skip (filled u16)),
   (Extension.keyModes, skip (list8 "PskKeyExchangeModes" (number 1 "PskKeyExchangeMode"))),
   (Extension.authorities, skip (list u16 (filled u16))),
   (Extension.shares, skip (list u16 Extension.share)),
   (Extension.hiddenNames, skip (list8 "ExtensionTypes" (number 2 "ExtensionType"))),
   (Extension.hidden, Extension.hiddenHello),
   (Extension.renegotiation, skip (opaqueBytes u8))]

/-- Reads a hello. Extensions may be left out altogether. -/
def decode : Reader ClientHello := do
  let version ← Extension.version
  let random ← Hello.random
  let session ← Hello.session
  let suites ← list16 "CipherSuites" Hello.suite
  let compressions ← list8 "Compressions" Hello.compression
  let check (code : Nat) := (bodies.lookup code).getD Extension.anything
  let extensions ← if ← isDone then pure [] else
    Extension.list "ClientExtensions" (some Extension.sharedKeys) check
  done "ClientHelloPayload"
  return { version, random, session, suites, compressions, extensions }

/-- The written form of a hello. -/
def encode (h : ClientHello) : Bytes :=
  word16 h.version ++ h.random ++ vector 1 h.session ++ vector 2 (h.suites.flatMap word16) ++
    vector 1 (h.compressions.map UInt8.ofNat) ++ vector 2 (Extension.encode h.extensions)

variable (h : ClientHello)

def has (code : Nat) : Bool := h.extensions.any (·.code == code)

/-- The numbers of two bytes that the extension `code` lists behind a length of `width` bytes. -/
def numbers? (code width : Nat) : Option (List Nat) :=
  Extension.find? h.extensions code (list (number width "") (number 2 ""))

/-- The name by which the client calls the server. -/
def host? : Option Extension.HostClaim := Extension.find? h.extensions Extension.serverName Extension.host

/-- The groups that the client offers. -/
def groups : List Nat := (h.numbers? Extension.groups 2).getD []

/-- The schemes by which the client takes signatures. -/
def schemes? : Option (List Nat) := h.numbers? Extension.schemes 2

/-- The versions that the client names. -/
def versions? : Option (List Nat) := h.numbers? Extension.versions 1

/-- The ways in which the client takes compressed certificates. -/
def compressors : List Nat := (h.numbers? Extension.compressors 1).getD []

/-- The client's shares of secrets. -/
def shares? : Option (List (Nat × Bytes)) :=
  Extension.find? h.extensions Extension.shares (list u16 Extension.share)

/-- Whether the client can come back with a ticket: it would agree on a new secret besides. -/
def takesTickets : Bool :=
  (Extension.find? h.extensions Extension.keyModes (list8 "" (number 1 ""))).any (·.contains 1)

/-- How many keys that were shared before the client names, and how many it binds to the hello. -/
def keys? : Option (Nat × Nat) := Extension.find? h.extensions Extension.sharedKeys Extension.keys

/-- Whether the client takes points in plain coordinates, as it does if it says nothing. -/
def takesPoints : Bool :=
  (Extension.find? h.extensions Extension.points Hello.points).all (·.contains Hello.plainPoints)

end ClientHello

/-! ### The server's hello -/

structure ServerHello where
  version : Nat
  random : Bytes
  session : Bytes
  suite : Nat
  compression : Nat
  extensions : List Extension
  deriving DecidableEq, Repr, Inhabited

namespace ServerHello

def protocolName : Reader Unit := short (positive u16 (.emptyList "ProtocolNames")) do
  let _ ← filled u8
  done "SingleProtocolName"

/-- How the bodies of the known extensions are written. -/
def bodies : List (Nat × Reader Unit) :=
  [(Extension.serverName, Extension.empty),
   (Extension.status, Extension.empty),
   (Extension.points, skip Hello.points),
   (Extension.protocols, protocolName),
   (Extension.clientKinds, skip (number 1 "CertificateType")),
   (Extension.serverKinds, skip (number 1 "CertificateType")),
   (Extension.extendedSecret, Extension.empty),
   (Extension.ticket, Extension.empty),
   (Extension.sharedKeys, skip u16),
   (Extension.earlyData, Extension.empty),
   (Extension.versions, skip Extension.version),
   (Extension.shares, skip Extension.share),
   (Extension.renegotiation, skip (opaqueBytes u8))]

def extensionList : Reader (List Extension) :=
  Extension.list "ServerExtensions" none fun code => (bodies.lookup code).getD Extension.anything

/-- Reads what follows the random value of a hello. Extensions may be left out altogether. -/
def decode (version : Nat) (random : Bytes) : Reader ServerHello := do
  let session ← Hello.session
  let suite ← Hello.suite
  let compression ← Hello.compression
  let extensions ← if ← isDone then pure [] else extensionList
  done "ServerHelloPayload"
  return { version, random, session, suite, compression, extensions }

/-- The written form of a hello. -/
def encode (h : ServerHello) : Bytes :=
  word16 h.version ++ h.random ++ vector 1 h.session ++ word16 h.suite ++
    [UInt8.ofNat h.compression] ++ vector 2 (Extension.encode h.extensions)

variable (h : ServerHello)

def has (code : Nat) : Bool := h.extensions.any (·.code == code)

/-- The version that the server names. -/
def selected? : Option Nat := Extension.find? h.extensions Extension.versions Extension.version

/-- The server's share of a secret. -/
def share? : Option (Nat × Bytes) := Extension.find? h.extensions Extension.shares Extension.share

/-- Whether the server takes points in plain coordinates, as it does if it says nothing. -/
def takesPoints : Bool :=
  (Extension.find? h.extensions Extension.points Hello.points).all (·.contains Hello.plainPoints)

end ServerHello

/-! ### The request for another hello -/

/-- A server's request for another hello. -/
structure RetryRequest where
  version : Nat
  session : Bytes
  suite : Nat
  extensions : List Extension
  deriving DecidableEq, Repr, Inhabited

namespace RetryRequest

/-- The random value by which a request is told from a hello. -/
def random : Bytes :=
  [0xcf, 0x21, 0xad, 0x74, 0xe5, 0x9a, 0x61, 0x11, 0xbe, 0x1d, 0x8c, 0x02, 0x1e, 0x65, 0xb8, 0x91,
   0xc2, 0xa2, 0x11, 0x16, 0x7a, 0xbb, 0x8c, 0x5e, 0x07, 0x9e, 0x09, 0xe2, 0xc8, 0xa8, 0x33, 0x9c]

/-- How the body of an extension is written; no others than these may come. -/
def check (code : Nat) : Reader Unit :=
  if code = Extension.shares then skip (number 2 "NamedGroup")
  else if code = Extension.cookie then skip (filled u16)
  else if code = Extension.versions then skip Extension.version
  else if code = Extension.hidden then Extension.anything
  else throw .unknownRetryExtension

/-- Reads what follows the random value of a request. -/
def decode (version : Nat) : Reader RetryRequest := do
  let session ← Hello.session
  let suite ← Hello.suite
  if (← Hello.compression) ≠ Hello.uncompressed then throw .unsupportedCompression
  return { version, session, suite,
           extensions := ← Extension.list "HelloRetryRequestExtensions" none check }

/-- The written form of a request. -/
def encode (r : RetryRequest) : Bytes :=
  word16 r.version ++ random ++ vector 1 r.session ++ word16 r.suite ++
    [UInt8.ofNat Hello.uncompressed] ++ vector 2 (Extension.encode r.extensions)

variable (r : RetryRequest)

def has (code : Nat) : Bool := r.extensions.any (·.code == code)

/-- The group that the server asks for. -/
def group? : Option Nat := Extension.find? r.extensions Extension.shares (number 2 "")

/-- What the server wants to see again. -/
def cookie? : Option Bytes := Extension.find? r.extensions Extension.cookie rest

/-- The version that the server names. -/
def selected? : Option Nat := Extension.find? r.extensions Extension.versions Extension.version

end RetryRequest

end SessionEngine.Tls
