import SessionEngine.Role
import SessionEngine.Tls.Intake
import SessionEngine.Tls.KeyExchange
import SessionEngine.Tls.Policy
import SessionEngine.Tls.Secret
import SessionEngine.Tls.Suite

/-! The state of one side of a TLS connection, and the steps that it takes: what it queues for the peer,
how it changes keys, and how it ends with a fault. What was done before a fault stays done. -/

namespace SessionEngine.Tls

/-- The message that has to come next. -/
inductive Expected where
  | clientHello
  | serverHello
  /-- What a server of version 1.3 answers to extensions. -/
  | answers
  /-- A request for the client's certificate, or the server's own. -/
  | requestOrCertificate
  | certificate
  /-- Proof that the certificate is still good, or what follows it. -/
  | statusOrKeyExchange
  | serverKeyExchange
  | requestOrDone
  | done
  | clientKeyExchange
  | certificateVerify
  | ticket
  | changeCipher
  | finished
  | traffic
  deriving DecidableEq, Repr, Inhabited

/-- The keys of both sides. -/
structure Keys where
  client : Bytes := []
  server : Bytes := []
  deriving DecidableEq, Repr, Inhabited

/-- The key of one side. -/
def Keys.of (k : Keys) : Role → Bytes
  | .client => k.client
  | .server => k.server

/-- The keys of `stage` that follow from `secret` and are tied to `context`. -/
def Keys.derive (secret : Bytes) (stage : String) (context : Bytes) : Keys where
  client := Secret.derive secret s!"client {stage}" context
  server := Secret.derive secret s!"server {stage}" context

/-- What two sides have told each other in the handshake, as far as it still matters. -/
structure Talk where
  clientRandom : Bytes := []
  serverRandom : Bytes := []
  /-- The client's name for the session. -/
  session : Bytes := []
  suite : Option Suite := none
  /-- The group of this side's share of a secret. -/
  group : Group := .x25519
  /-- Whether the server has asked for another hello. -/
  retried : Bool := false
  /-- What the server wants to see again. -/
  cookie : Option Bytes := none
  /-- The name by which the client called the server. -/
  host : Option String := none
  /-- Whether the secret is tied to all that was said. -/
  extended : Bool := false
  /-- All messages so far in their written form. -/
  transcript : Bytes := []
  secret : Bytes := []
  handshakeKeys : Keys := {}
  trafficKeys : Keys := {}
  /-- The peer's certificates. -/
  chain : List Bytes := []
  keyExchange : KeyExchange := default
  /-- The schemes by which a server takes the client's signature, if it asked for one. -/
  asked : Option (List Nat) := none
  /-- Whether the server may prove that its certificate is still good. -/
  statusDue : Bool := false
  /-- Whether the server will send a ticket before it changes keys. -/
  ticketDue : Bool := false
  /-- Whether the client takes tickets once the handshake is over. -/
  ticketsTaken : Bool := false
  deriving Repr

/-- One direction of a connection: the key in force, if any, and the number of the next record. -/
structure Direction where
  key : Option Bytes := none
  number : Nat := 0
  deriving DecidableEq, Repr

/-- One side of a TLS connection. -/
structure Engine where
  role : Role
  policy : Policy
  /-- The name by which a client calls the server. -/
  serverName : Option ServerName
  /-- What this side draws its random values from. -/
  seed : Nat
  version : Option Version := none
  expected : Expected
  talk : Talk := {}
  receiving : Direction := {}
  sending : Direction := {}
  intake : Intake := {}
  joiner : Joiner := {}
  /-- The messages of the handshake that go out together. -/
  flight : Bytes := []
  outgoing : Bytes := []
  plaintext : Bytes := []
  fault : Option Fault := none
  /-- Whether the last alert was sent. -/
  finalAlert : Bool := false
  /-- Whether the peer has said that it will write no more. -/
  peerClosed : Bool := false
  /-- The warnings received so far. -/
  warnings : Nat := 0
  /-- The changes of keys received so far that mean nothing. -/
  changes : Nat := 0
  /-- How many of the last records were empty. -/
  blanks : Nat := 0
  /-- Whether a record was opened under a key. -/
  opened : Bool := false
  /-- How many bytes may be passed over that do not open, as the client's data that came too early. -/
  skipping : Option Nat := none
  /-- How many bytes of data may come too early in the clear. -/
  early : Option Nat := none

namespace Engine

/-- Whether the handshake is still going on. -/
def handshaking (e : Engine) : Bool := e.expected != .traffic

def isModern (e : Engine) : Bool := e.version == some .tls13

/-- Whether a version may be spoken. -/
def speaks (e : Engine) (v : Version) : Bool := e.policy.protocol.versions.contains v

/-- The hash value of all messages so far. -/
def transcriptHash (e : Engine) : Bytes :=
  let digest := e.talk.suite.elim .sha256 Suite.digest
  digest.hash e.talk.transcript

/-! ### Writing -/

/-- Queues one record. -/
def sendRecord (e : Engine) (r : Record) : Engine :=
  match e.sending.key with
  | none => { e with outgoing := e.outgoing ++ r.encode }
  | some key =>
    let sealed := Record.protect (e.version.getD .tls12) key e.sending.number r
    { e with
      outgoing := e.outgoing ++ sealed.encode
      sending := { e.sending with number := e.sending.number + 1 } }

/-- Queues `payload` in as many records as it takes, of which each names the version with the last byte
`minor`. -/
def sendAs (e : Engine) (minor : UInt8) (type : ContentType) (payload : Bytes) : Engine :=
  (Bytes.pieces Record.maxFragment payload).foldl
    (fun e piece => e.sendRecord { type, payload := piece, minor }) e

/-- Queues `payload` in as many records as it takes. -/
def send (e : Engine) (type : ContentType) (payload : Bytes) : Engine := e.sendAs 3 type payload

/-- Queues the mark that a change of keys leaves among the records, which is never sealed. -/
def sendChange (e : Engine) : Engine :=
  { e with outgoing := e.outgoing ++ Record.encode { type := .changeCipherSpec, payload := [1] } }

def warningLevel : UInt8 := 1

/-- The level byte of a fatal alert. -/
def fatalLevel : UInt8 := 2

/-- Tells the peer about a fault. -/
def sendAlert (e : Engine) (alert : Alert) : Engine :=
  { e.send .alert [fatalLevel, alert.code] with finalAlert := true }

/-- Tells the peer that nothing more will be written; this is said once. -/
def closeNotify (e : Engine) : Engine :=
  if e.finalAlert then e
  else { e.send .alert [warningLevel, Alert.closeNotify.code] with finalAlert := true }

/-! ### Keys -/

def shareSecret (e : Engine) (g : Group) : Bytes := Secret.draw e.seed s!"share {g.code}"

/-- A random value of this side. -/
def drawRandom (e : Engine) : Bytes := (Secret.draw e.seed "random").take Hello.randomLength

/-- A name for the session. -/
def drawSession (e : Engine) : Bytes := (Secret.draw e.seed "session").take Hello.sessionBound

def readUnder (e : Engine) (key : Bytes) : Engine := { e with receiving := ⟨some key, 0⟩ }

def writeUnder (e : Engine) (key : Bytes) : Engine := { e with sending := ⟨some key, 0⟩ }

/-- The bytes that end the handshake for one side in version 1.2. -/
def finishedLength : Nat := 12

/-- The code by which `role` shows at the end of the handshake that it has seen what was said. -/
def finishedCode (e : Engine) (role : Role) : Bytes :=
  if e.isModern then Secret.derive (e.talk.handshakeKeys.of role) "finished" e.transcriptHash
  else ((Keys.derive e.talk.secret "finished" e.transcriptHash).of role).take finishedLength

/-- The engine with the secret of version 1.2 that follows from what both sides share, and with the keys
that follow from it. `hash` is the hash value of the messages up to the client's share. -/
def settleSecret (e : Engine) (shared hash : Bytes) : Engine :=
  let randoms := e.talk.clientRandom ++ e.talk.serverRandom
  let secret := Secret.derive shared "secret" (if e.talk.extended then hash else randoms)
  { e with talk := { e.talk with secret, trafficKeys := Keys.derive secret "traffic" randoms } }

/-- The engine with the keys of version 1.3 for the handshake, which follow from what both sides share. -/
def settleHandshake (e : Engine) (shared : Bytes) : Engine :=
  let handshakeKeys := Keys.derive shared "handshake" e.transcriptHash
  { e with talk := { e.talk with secret := shared, handshakeKeys } }

/-- The engine with the keys of version 1.3 for what follows the handshake. -/
def settleTraffic (e : Engine) : Engine :=
  { e with
    talk := { e.talk with trafficKeys := Keys.derive e.talk.secret "traffic" e.transcriptHash } }

/-! ### Steps -/

/-- A step of an engine. A fault ends it, and what was done before stays done. -/
abbrev Step := ExceptT Fault (StateM Engine)

namespace Step

/-- Ends with a fault that the peer is told about by `alert`. -/
def failWith {α : Type} (alert : Alert) (fault : Fault) : Step α := do
  modify (·.sendAlert alert)
  throw fault

/-- Ends with a fault; the peer is told about it if it is one to tell. -/
def fail {α : Type} (fault : Fault) : Step α :=
  match fault.alert? with
  | none => throw fault
  | some alert => failWith alert fault

/-- Ends because the peer does something against the rules. -/
def misbehaved {α : Type} (how : Misbehaviour) : Step α := fail (.misbehaved how)

/-- Ends because the two sides cannot agree. -/
def incompatible {α : Type} (why : Incompatibility) : Step α := fail (.incompatible why)

/-- What `r` gives; its fault ends the step. -/
def check {α : Type} : Except Fault α → Step α
  | .ok a => return a
  | .error fault => fail fault

/-- Changes what is known of the handshake. -/
def learn (f : Talk → Talk) : Step Unit := modify fun e => { e with talk := f e.talk }

/-- Waits for a message. -/
def expect (expected : Expected) : Step Unit := modify fun e => { e with expected }

/-- Notes a message in its written form. -/
def note (message : Bytes) : Step Unit :=
  learn fun t => { t with transcript := t.transcript ++ message }

/-- Notes a message and adds it to those that go out together. -/
def say (m : Message) : Step Unit := do
  let written := m.encode (← get).isModern
  note written
  modify fun e => { e with flight := e.flight ++ written }

/-- Queues the messages that go out together. -/
def flush : Step Unit := modify fun e => { e with flight := [] }.send .handshake e.flight

/-- Puts the hash value of the messages so far in their place. -/
def foldTranscript : Step Unit := do
  let hash := (← get).transcriptHash
  learn fun t => { t with transcript := (Message.helloHash hash).encode true }

/-- Ends unless nothing of the handshake waits behind the message in hand: keys change only there. -/
def aligned : Step Unit := do
  if !(← get).joiner.isIdle then misbehaved .unaligned

/-! ### Certificates and signatures -/

/-- Whether the peer's certificates are accepted. -/
def checkChain (chain : List Bytes) : Step Unit := do
  let e ← get
  match chain with
  | [] => return
  | leaf :: others =>
    if !e.policy.anchors.isEmpty then
      let leaf ← check ((Certificate.decode leaf).mapError .certificate)
      let wanted := match e.role with
        | .client => e.serverName
        | .server => none
      check ((Certificate.verify e.policy.anchors others leaf wanted).mapError .certificate)

/-- Whether `signature` is one of `message` by the holder of the certificate `leaf`. -/
def checkSignature (leaf : Bytes) (scheme : Nat) (message signature : Bytes) : Step Unit := do
  let modern := (← get).isModern
  let some scheme := (Scheme.ofCode? scheme).filter fun s => !modern || s.isModern
    | misbehaved .schemeUnadvertised
  let leaf ← check ((Certificate.decode leaf).mapError .certificate)
  check ((leaf.checkSignature modern scheme message signature).mapError .certificate)

/-- What a side of version 1.3 signs. -/
def signedContent (signer : Role) (hash : Bytes) : Bytes :=
  let side := match signer with
    | .client => "client"
    | .server => "server"
  List.replicate 64 0x20 ++ Bytes.ofString s!"TLS 1.3, {side} CertificateVerify" ++ 0 :: hash

/-- Checks the signature of all that was said, by the peer that presented `chain`. -/
def checkVerify (scheme : Nat) (signature : Bytes) : Step Unit := do
  let e ← get
  let message := if e.isModern then signedContent e.role.other e.transcriptHash else e.talk.transcript
  checkSignature (e.talk.chain.headD []) scheme message signature

/-- The scheme by which `key` signs for a peer that takes `offered`. -/
def choose? (key : PrivateKey) (offered : List Nat) : Option Scheme :=
  key.schemes.find? fun s => offered.contains s.code && s.code != 0

/-- Signs all that was said. -/
def sayVerify (key : PrivateKey) (scheme : Scheme) : Step Unit := do
  let e ← get
  let message := if e.isModern then signedContent e.role e.transcriptHash else e.talk.transcript
  say (.certificateVerify scheme.code (key.sign scheme message))

/-- Checks the code by which the peer ends the handshake. -/
def checkFinished (code : Bytes) : Step Unit := do
  let e ← get
  if code ≠ e.finishedCode e.role.other then failWith .decryptError .undecryptable

end Step

end Engine

end SessionEngine.Tls
