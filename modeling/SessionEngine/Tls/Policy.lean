import SessionEngine.IoError
import SessionEngine.Text.Quoted
import SessionEngine.Tls.Certificate
import SessionEngine.Tls.Key
import SessionEngine.Tls.LockedKey
import SessionEngine.Tls.Pem
import SessionEngine.Tls.Version

/-! The TLS policy of a socket: the versions it speaks, whom it presents itself as and whom it
trusts; and how a policy is loaded from files. The order of the checks decides which of two faults is
reported: the protocol name, then the pairing of certificate and key, the certificate file, the key
file, the file of authorities, the authorities, and last the identity. -/

namespace SessionEngine.Tls

abbrev FileReader := String → Except IoError Bytes

/-- The files and names that a policy is made from. -/
structure Config where
  certPath : Option String := none
  keyPath : Option String := none
  keyPassword : Option String := none
  caPath : Option String := none
  protocol : String := ""
  /-- Servers only: whether a client must present a certificate. -/
  clientAuth : Bool := false
  deriving DecidableEq, Repr

/-- A path that may be missing, for diagnostics. -/
def describePath : Option String → String
  | none => "None"
  | some path => s!"Some({Text.quoted path})"

/-- The configuration in a form for diagnostics; the password is not shown. -/
def Config.describe (c : Config) : String :=
  "TlsConfig \x7b cert_path: " ++ describePath c.certPath ++ ", key_path: " ++
    describePath c.keyPath ++ ", key_password: " ++
    describePath (c.keyPassword.map fun _ => "<redacted>") ++ ", ca_path: " ++
    describePath c.caPath ++ ", protocol: " ++ Text.quoted c.protocol ++
    s!", client_auth: {c.clientAuth} \x7d"

/-- A certificate chain, the peer's own certificate first, and the key of that one, as they are
written. -/
structure Identity where
  chain : List Bytes
  form : PrivateKey.Form
  key : Bytes
  deriving DecidableEq, Repr

/-- A certificate chain and the key that belongs to it. -/
structure Credential where
  chain : List Bytes
  key : PrivateKey
  deriving DecidableEq, Repr

/-- The credential that an identity writes, if the key can be read and belongs to the first
certificate. -/
def Identity.credential (i : Identity) : Except IdentityFault Credential := do
  let key ← (PrivateKey.decode i.form i.key).mapError .key
  let leaf ← (Certificate.decode (i.chain.headD [])).mapError .certificate
  if key.publicKey?.map PublicKey.info = some leaf.keyInfo then return ⟨i.chain, key⟩
  else .error (.key .mismatch)

/-- What a socket does about TLS. -/
structure Policy where
  protocol : Protocol
  credential : Option Credential
  /-- The authorities that are trusted; with none, every certificate is accepted. -/
  anchors : List Anchor
  clientAuth : Bool
  deriving DecidableEq, Repr

namespace Policy

def canServe (p : Policy) : Bool := p.credential.isSome

/-- The policy with authorities in their written form, if those and the identity are usable. -/
def build (protocol : Protocol) (identity : Option Identity) (authorities : List Bytes)
    (clientAuth : Bool) : Except ConfigFault Policy := do
  let anchors ← authorities.mapM fun data => (Certificate.decodeAnchor data).mapError .authority
  let credential ← identity.mapM fun i => i.credential.mapError .identity
  return { protocol, credential, anchors, clientAuth }

def fileFault (path reason : String) : ConfigFault := .file path reason

def readFile (files : FileReader) (path : String) : Except ConfigFault Bytes :=
  (files path).mapError fun e => fileFault path s!"I/O error: {e.text}"

/-- The certificates in the file `path`, at least one. -/
def loadCertificates (files : FileReader) (path : String) : Except ConfigFault (List Bytes) := do
  match Pem.sections (← readFile files path) with
  | (_, some fault) => .error (fileFault path fault.message)
  | (sections, none) =>
    let certificates := sections.filter fun s => Pem.Kind.ofLabel? s.label == some .certificate
    if certificates.isEmpty then .error (fileFault path "no certificates found")
    else .ok (certificates.map (·.content))

/-- The form of the private key that a section holds, if it holds one. -/
def keyForm? (s : Pem.Section) : Option PrivateKey.Form :=
  match Pem.Kind.ofLabel? s.label with
  | some .rsaPrivateKey => some .rsa
  | some .ecPrivateKey => some .curve
  | some .privateKey => some .general
  | _ => none

/-- The first private key in `text` that no password locks. -/
def openKey (path : String) (text : Bytes) : Except ConfigFault (PrivateKey.Form × Bytes) :=
  let (sections, fault) := Pem.sections text
  match sections.findSome? fun s => (keyForm? s).map (·, s.content), fault with
  | some key, _ => .ok key
  | none, some fault => .error (fileFault path fault.message)
  | none, none => .error (fileFault path "no items found")

/-- The key that `data` holds under a password. -/
def unlockKey (path password : String) (data : Bytes) :
    Except ConfigFault (PrivateKey.Form × Bytes) :=
  let content := (LockedKey.decode data).bind fun key => key.unlock (Bytes.ofString password)
  (content.map (PrivateKey.Form.general, ·)).mapError fun fault => fileFault path fault.message

/-- The private key in the file `path`. With a password the file has to be text, and is opened if a
locked key is all it holds. -/
def loadKey (files : FileReader) (path : String) (password : Option String) :
    Except ConfigFault (PrivateKey.Form × Bytes) := do
  match password with
  | none => openKey path (← readFile files path)
  | some password =>
    let data ← (files path).mapError fun e => fileFault path e.text
    if (String.fromUTF8? ⟨data.toArray⟩).isNone then
      .error (fileFault path "stream did not contain valid UTF-8")
    else match (Pem.sole? Pem.encryptedLabel data).filter Der.isSequence with
      | some locked => unlockKey path password locked
      | none => openKey path data

/-- The identity that `c` names, if it names one. -/
def loadIdentity (files : FileReader) (c : Config) : Except ConfigFault (Option Identity) := do
  match c.certPath, c.keyPath with
  | none, none => return none
  | some cert, some key =>
    let chain ← loadCertificates files cert
    let (form, key) ← loadKey files key c.keyPassword
    return some { chain, form, key }
  | _, _ => .error .unpaired

def load (files : FileReader) (c : Config) : Except ConfigFault Policy := do
  let protocol ← Protocol.parse c.protocol
  let identity ← loadIdentity files c
  let authorities ← match c.caPath with
    | none => pure []
    | some path => loadCertificates files path
  build protocol identity authorities c.clientAuth

end Policy

end SessionEngine.Tls
