import SessionEngine.Tls.Engine.State

/-! The client's part in a handshake, message by message. -/

namespace SessionEngine.Tls.Engine

open Wire Step

/-- The end of the random value of a server that could have spoken version 1.3. -/
def downgradeMark : Bytes := Bytes.ofString "DOWNGRD" ++ [1]

/-- The suite by whose number a client says that the handshake is the first one of the connection. -/
def firstHandshake : Nat := 0x00ff

def helloExtensions (e : Engine) : List Extension :=
  let modern := e.speaks .tls13
  let versions := e.policy.protocol.versions.map Hello.versionCode
  let name : List Extension := match e.serverName with
    | some (.dns name) =>
      let name := Bytes.ofString (if name.endsWith "." then (name.dropEnd 1).copy else name)
      [⟨Extension.serverName, vector 2 (0 :: vector 2 name)⟩]
    | _ => []
  let share := word16 e.talk.group.code ++ vector 2 (e.talk.group.share (e.shareSecret e.talk.group))
  [⟨Extension.versions, vector 1 (versions.flatMap word16)⟩,
    ⟨Extension.groups, vector 2 (Group.all.flatMap fun g => word16 g.code)⟩,
    ⟨Extension.schemes, vector 2 (Scheme.all.flatMap fun s => word16 s.code)⟩,
    ⟨Extension.extendedSecret, []⟩,
    ⟨Extension.status, 1 :: vector 2 [] ++ vector 2 []⟩,
    ⟨Extension.points, vector 1 [UInt8.ofNat Hello.plainPoints]⟩] ++ name ++
    (if modern then [⟨Extension.keyModes, vector 1 [1]⟩, ⟨Extension.shares, vector 2 share⟩] else []) ++
    (if e.speaks .tls12 then [⟨Extension.ticket, []⟩] else []) ++
    (e.talk.cookie.map fun c => (⟨Extension.cookie, vector 2 c⟩ : Extension)).toList

def hello (e : Engine) : ClientHello where
  version := Hello.versionCode .tls12
  random := e.talk.clientRandom
  session := e.talk.session
  suites := Suite.all.map (·.code) ++ (if e.speaks .tls12 then [firstHandshake] else [])
  compressions := [Hello.uncompressed]
  extensions := e.helloExtensions

namespace Step

/-- Queues the client's hello in records that name the version with the last byte `minor`. -/
def sayHello (minor : UInt8) : Step Unit := do
  say (.clientHello (← get).hello)
  modify fun e => { e with flight := [] }.sendAs minor .handshake e.flight

def pickedVersion (h : ServerHello) : Step Version := do
  let code := if h.version = Hello.versionCode .tls12 then h.selected?.getD h.version else h.version
  match Hello.version? code with
  | none => incompatible .versionUnknown
  | some version =>
    if !(← get).speaks version then incompatible .versionDisabled
    else if version = .tls12 ∧ h.selected?.isSome then misbehaved .versionOddlySelected
    else return version

/-- The rest of a server's hello of version 1.3. -/
def acceptShare (h : ServerHello) : Step Unit := do
  let allowed := [Extension.shares, Extension.sharedKeys, Extension.versions]
  if h.extensions.any fun x => !allowed.contains x.code then misbehaved .extensionUnprotected
  let some (group, share) := h.share? | misbehaved .shareMissing
  let e ← get
  if group ≠ e.talk.group.code then misbehaved .shareOfOtherGroup
  let some shared := e.talk.group.agree? (e.shareSecret e.talk.group) share | misbehaved .keyShare
  aligned
  if !e.talk.retried then modify (·.sendChange)
  modify (·.settleHandshake shared)
  modify fun e => (e.readUnder e.talk.handshakeKeys.server).writeUnder e.talk.handshakeKeys.client
  expect .answers

/-- The rest of a server's hello of version 1.2. -/
def acceptOlder (h : ServerHello) : Step Unit := do
  let e ← get
  if e.speaks .tls13 ∧ h.random.drop (Hello.randomLength - downgradeMark.length) = downgradeMark then
    misbehaved .downgrade
  if e.talk.session ≠ [] ∧ h.session = e.talk.session then misbehaved .sessionEchoed
  learn fun t => { t with
    extended := h.has Extension.extendedSecret
    statusDue := h.has Extension.status
    ticketDue := h.has Extension.ticket }
  expect .certificate

def acceptHello (h : ServerHello) (message : Bytes) : Step Unit := do
  let version ← pickedVersion h
  if h.compression ≠ Hello.uncompressed then misbehaved .compressionSelected
  let asked := Extension.renegotiation :: (← get).helloExtensions.map (·.code)
  if h.extensions.any fun x => !asked.contains x.code then misbehaved .extensionUnasked
  modify fun e => { e with version := some version }
  if !h.takesPoints then misbehaved .pointsSelected
  let some suite := Suite.ofCode? h.suite | misbehaved .suiteUnoffered
  if suite.version ≠ version then misbehaved .suiteUnusable
  if (← get).talk.suite.any (· ≠ suite) then misbehaved .suiteChanged
  learn fun t => { t with suite := some suite, serverRandom := h.random }
  note message
  match version with
  | .tls13 => acceptShare h
  | .tls12 => acceptOlder h

/-- A client's answer to the request for another hello. -/
def acceptRetry (r : RetryRequest) (message : Bytes) : Step Unit := do
  aligned
  let e ← get
  if r.cookie?.isNone ∧ r.group? = some e.talk.group.code then misbehaved .retryOfOfferedGroup
  if r.cookie?.isNone ∧ r.group?.isNone then misbehaved .retryForNothing
  if r.session ≠ e.talk.session then misbehaved .retryOfOtherSession
  if r.selected? ≠ some (Hello.versionCode .tls13) then misbehaved .retryOfOtherVersion
  modify fun e => { e with version := some .tls13 }
  let some suite := Suite.ofCode? r.suite | misbehaved .retryOfOtherSuite
  if r.has Extension.hidden then misbehaved .retryOfHiddenHello
  learn fun t => { t with suite := some suite, cookie := r.cookie?, retried := true }
  foldTranscript
  note message
  match r.group? with
  | none => pure ()
  | some code =>
    let some group := Group.ofCode? code | misbehaved .retryOfOtherGroup
    learn fun t => { t with group }
  modify (·.sendChange)
  sayHello 3

/-! ### Version 1.2 -/

/-- The key and the scheme by which a client can sign, if it was asked to. -/
def signer? (e : Engine) : Option (PrivateKey × Scheme) := do
  let asked ← e.talk.asked
  let credential ← e.policy.credential
  return (credential.key, ← choose? credential.key asked)

/-- The certificates that a client presents: none if it cannot sign. -/
def presented (e : Engine) : List Bytes :=
  if (signer? e).isSome then e.policy.credential.elim [] (·.chain) else []

/-- Checks what the server has shown of itself once it is done. -/
def checkServer : Step Unit := do
  let talk := (← get).talk
  if talk.chain.isEmpty then throw .noCertificates
  checkChain talk.chain
  let k := talk.keyExchange
  if !talk.suite.all (·.signer.goesWith k.scheme) then misbehaved .keyExchangeScheme
  checkSignature (talk.chain.headD []) k.scheme
    (KeyExchange.signed talk.clientRandom talk.serverRandom k.group k.share) k.signature

/-- A client's answer once the server is done: who it is, its share of a secret, and under keys that it
is done itself. Each message goes out by itself. -/
def answerDone (message : Bytes) : Step Unit := do
  aligned
  note message
  checkServer
  let e ← get
  if e.talk.asked.isSome then do say (.certificate (presented e)); flush
  let some group := Group.ofCode? e.talk.keyExchange.group | misbehaved .keyExchangeGroup
  say (.clientKeyExchange (KeyExchange.encodeAnswer (group.share (e.shareSecret group))))
  flush
  let hash := (← get).transcriptHash
  if let some (key, scheme) := signer? e then
    sayVerify key scheme
    flush
  let some shared := group.agree? (e.shareSecret group) e.talk.keyExchange.share
    | misbehaved .keyShare
  modify fun e => (e.settleSecret shared hash).sendChange
  modify fun e => e.writeUnder (e.talk.trafficKeys.of e.role)
  say (.finished ((← get).finishedCode .client))
  flush
  expect (if e.talk.ticketDue then .ticket else .changeCipher)

/-! ### Version 1.3 -/

/-- A client's last messages, under keys: who it is if it was asked, and that it is done. -/
def finishClient : Step Unit := do
  modify (·.settleTraffic)
  let e ← get
  if e.talk.asked.isSome then
    say (.certificate (presented e))
    if let some (key, scheme) := signer? e then sayVerify key scheme
  say (.finished ((← get).finishedCode .client))
  flush
  modify fun e => (e.readUnder e.talk.trafficKeys.server).writeUnder e.talk.trafficKeys.client

end Step

end SessionEngine.Tls.Engine
