import SessionEngine.Tls.Engine.Client

/-! The server's part in a handshake, message by message. -/

namespace SessionEngine.Tls.Engine.Step

open Wire

/-- The most bytes of a client's data that are passed over because they came too early. -/
def earlyBound : Nat := 16384

/-- The version that a server picks from what a client offers. -/
def pickVersion (h : ClientHello) : Step Version := do
  let e ← get
  match h.versions? with
  | some versions =>
    let offered (v : Version) := versions.contains (Hello.versionCode v)
    match e.policy.protocol.versions.find? offered with
    | some version => return version
    | none => incompatible .versionsOffered
  | none =>
    if h.version < Hello.versionCode .tls12 then incompatible .versionOffered
    else if e.speaks .tls12 then return .tls12
    else incompatible .versionsUnnamed

/-- The suite and the group that a server picks: the first ones of the client's that it can use. -/
def pickSuite (h : ClientHello) (version : Version) (key : PrivateKey) : Step (Suite × Group) := do
  let some group := h.groups.findSome? Group.ofCode? | incompatible .groups
  let usable (s : Suite) := s.version == version && s.signer.admits key
  let some suite := (h.suites.filterMap Suite.ofCode?).find? usable | incompatible .suites
  return (suite, group)

/-- The names of the authorities that a server trusts. -/
def authorities (e : Engine) : List Bytes :=
  e.policy.anchors.map fun a => Der.wrap Der.tagSequence a.subject

/-- Asks for the client's certificate, if that is the policy. -/
def sayRequest : Step Unit := do
  let e ← get
  if e.policy.clientAuth then
    let modern := e.isModern
    let schemes := Scheme.all.filter fun s => !modern || s.isModern
    say (.certificateRequest (schemes.map (·.code)) (authorities e))

/-! ### Version 1.2 -/

/-- A server's answer in version 1.2, which goes out as a whole or not at all. -/
def answerOlder (h : ClientHello) (schemes : List Nat) (credential : Credential) (suite : Suite)
    (group : Group) : Step Unit := do
  if !h.takesPoints then incompatible .points
  let e ← get
  let random := if e.speaks .tls13 then
      e.drawRandom.take (Hello.randomLength - downgradeMark.length) ++ downgradeMark
    else e.drawRandom
  let extended := h.has Extension.extendedSecret
  learn fun t => { t with extended, serverRandom := random }
  let usable := schemes.filter suite.signer.schemes.contains
  if usable.isEmpty then incompatible .schemes
  let answered (code : Nat) : List Extension := if h.has code then [⟨code, []⟩] else []
  let first := h.has Extension.renegotiation || h.suites.contains firstHandshake
  let extensions := answered Extension.serverName ++
    (if first then [⟨Extension.renegotiation, vector 1 []⟩] else []) ++
    answered Extension.extendedSecret
  say (.serverHello
    { version := Hello.versionCode .tls12, random, session := e.drawSession, suite := suite.code,
      compression := Hello.uncompressed, extensions })
  say (.certificate credential.chain)
  let some scheme := choose? credential.key usable
    | throw (.general "incompatible signing key")
  let share := group.share (e.shareSecret group)
  let signed := KeyExchange.signed h.random random group.code share
  let signature := credential.key.sign scheme signed
  say (.serverKeyExchange
    (KeyExchange.encode { group := group.code, share, scheme := scheme.code, signature }))
  sayRequest
  say .serverHelloDone
  flush
  expect (if e.policy.clientAuth then .certificate else .clientKeyExchange)

/-- A server's reading of the client's share of a secret. -/
def acceptShareOfClient (body message : Bytes) : Step Unit := do
  note message
  let e ← get
  match KeyExchange.decodeAnswer body with
  | .error how => throw (.corrupt how)
  | .ok (share, rest) =>
    if rest ≠ [] then fail (.corrupt .invalidKeyParameters)
    let some shared := e.talk.group.agree? (e.shareSecret e.talk.group) share | misbehaved .keyShare
    modify (·.settleSecret shared e.transcriptHash)
    expect (if e.talk.chain.isEmpty then .changeCipher else .certificateVerify)

/-! ### Version 1.3 -/

/-- Whether a group comes twice among the shares of a hello. -/
def sharesTwice (shares : List (Nat × Bytes)) : Bool := !decide (shares.map (·.1)).Nodup

/-- Asks the client for another hello with a share in `group`. -/
def sayRetry (h : ClientHello) (suite : Suite) (group : Group) : Step Unit := do
  if (← get).talk.retried then misbehaved .retryRefused
  learn fun t => { t with retried := true }
  foldTranscript
  say (.retryRequest
    { version := Hello.versionCode .tls12, session := h.session, suite := suite.code,
      extensions := [⟨Extension.shares, word16 group.code⟩,
        ⟨Extension.versions, word16 (Hello.versionCode .tls13)⟩] })
  flush
  modify (·.sendChange)
  modify fun e => { e with early := if h.has Extension.earlyData then some earlyBound else none }

/-- Checks what a hello says of keys that were shared before. None of them is known. -/
def checkKeys (h : ClientHello) : Step Unit := do
  match h.keys? with
  | none => return
  | some (identities, binders) =>
    if !h.has Extension.keyModes then misbehaved .keyModesMissing
    if identities ≠ binders then misbehaved .bindersMismatched

/-- A server's messages under keys: who it is, and that it is done. -/
def sayIdentity (schemes : List Nat) (credential : Credential) : Step Unit := do
  let e ← get
  say (.answers (if e.talk.host.isSome then [⟨Extension.serverName, []⟩] else []))
  sayRequest
  say (.certificate credential.chain)
  let some scheme := choose? credential.key (schemes.filter fun c => (Scheme.ofCode? c).any (·.isModern))
    | incompatible .schemes
  sayVerify credential.key scheme
  say (.finished ((← get).finishedCode .server))
  flush
  modify (·.settleTraffic)
  modify fun e => e.writeUnder e.talk.trafficKeys.server

/-- A server's answer in version 1.3. -/
def answerModern (h : ClientHello) (message : Bytes) (schemes : List Nat) (credential : Credential)
    (suite : Suite) (group : Group) : Step Unit := do
  if h.compressions.length ≠ 1 then misbehaved .compressions
  let some shares := h.shares? | incompatible .shareUnnamed
  if sharesTwice shares then misbehaved .sharesTwice
  if !decide h.compressors.Nodup then misbehaved .compressorsTwice
  let e ← get
  let early := h.has Extension.earlyData
  if e.talk.retried ∧ early then misbehaved .earlyDataAgain
  note message
  match shares.lookup group.code with
  | none => sayRetry h suite group
  | some share =>
    checkKeys h
    let some shared := group.agree? (e.shareSecret group) share | misbehaved .keyShare
    learn fun t => { t with ticketsTaken := h.takesTickets }
    say (.serverHello
      { version := Hello.versionCode .tls12, random := e.drawRandom, session := h.session,
        suite := suite.code, compression := Hello.uncompressed,
        extensions :=
          [⟨Extension.shares, word16 group.code ++ vector 2 (group.share (e.shareSecret group))⟩,
            ⟨Extension.versions, word16 (Hello.versionCode .tls13)⟩] })
    flush
    if !e.talk.retried then modify (·.sendChange)
    modify (·.settleHandshake shared)
    modify fun e => e.writeUnder e.talk.handshakeKeys.server
    sayIdentity schemes credential
    modify fun e =>
      { e.readUnder e.talk.handshakeKeys.client with skipping := if early then some earlyBound else none }
    expect (if e.policy.clientAuth then .certificate else .finished)

/-- A server's last messages, tickets to come back with. -/
def finishServer : Step Unit := do
  modify fun e => e.readUnder e.talk.trafficKeys.client
  if (← get).talk.ticketsTaken then
    say .ticket
    say .ticket
    flush

/-! ### Hellos -/

/-- The name by which a client calls the server; it may not change. -/
def noteHost (h : ClientHello) : Step Unit := do
  let host ← match h.host? with
    | some .malformed => misbehaved .serverName
    | some (.name name) => pure (some name)
    | _ => pure none
  let talk := (← get).talk
  if talk.retried ∧ talk.host ≠ host then misbehaved .serverNameChanged
  learn fun t => { t with host }

def answerHello (h : ClientHello) (message : Bytes) : Step Unit := do
  if !h.compressions.contains Hello.uncompressed then incompatible .compression
  aligned
  noteHost h
  let some schemes := h.schemes? | incompatible .schemesUnnamed
  let version ← pickVersion h
  modify fun e => { e with version := some version }
  let some credential := (← get).policy.credential | throw (.general "no server certificate chain resolved")
  let (suite, group) ← pickSuite h version credential.key
  if (← get).talk.suite.any (·.digest ≠ suite.digest) then misbehaved .hashChanged
  learn fun t => { t with suite := some suite, group, clientRandom := h.random }
  match version with
  | .tls13 => answerModern h message schemes credential suite group
  | .tls12 => do note message; answerOlder h schemes credential suite group

/-- A server's reading of the client's certificates. -/
def acceptClient (chain : List Bytes) (message : Bytes) : Step Unit := do
  note message
  if chain.isEmpty then fail .noCertificates
  checkChain chain
  learn fun t => { t with chain }
  expect (if (← get).isModern then .certificateVerify else .clientKeyExchange)

end SessionEngine.Tls.Engine.Step
