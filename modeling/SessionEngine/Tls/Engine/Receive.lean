import SessionEngine.Tls.Engine.Server

/-! How a side works off what it has read, record by record and message by message. The main statement is
`process_fault`: the first fault is final. -/

namespace SessionEngine.Tls.Engine

/-- The types of record that may come next. -/
def wantedRecords (e : Engine) : List String :=
  match e.expected with
  | .changeCipher => ["ChangeCipherSpec"]
  | .traffic => if e.isModern then ["ApplicationData", "Handshake"] else ["ApplicationData"]
  | _ => ["Handshake"]

/-- The names of the messages of the handshake that may come next. -/
def wantedMessages (e : Engine) : List String :=
  match e.expected with
  | .clientHello => ["ClientHello"]
  | .serverHello =>
    if e.speaks .tls13 && !e.talk.retried then ["ServerHello", "HelloRetryRequest"] else ["ServerHello"]
  | .answers => ["EncryptedExtensions"]
  | .requestOrCertificate => ["CertificateRequest", "Certificate"]
  | .certificate => ["Certificate"]
  | .statusOrKeyExchange => ["ServerKeyExchange", "CertificateStatus"]
  | .serverKeyExchange => ["ServerKeyExchange"]
  | .requestOrDone | .done => ["ServerHelloDone"]
  | .clientKeyExchange => ["ClientKeyExchange"]
  | .certificateVerify => ["CertificateVerify"]
  | .ticket => ["NewSessionTicket"]
  | .finished => ["Finished"]
  | .changeCipher => []
  | .traffic => match e.role with
    | .client => ["NewSessionTicket", "KeyUpdate"]
    | .server => ["KeyUpdate"]

/-- Whether a message of the handshake may come next at all. -/
def wantsMessage (e : Engine) : Bool := e.wantedRecords.contains "Handshake"

namespace Step

/-- Ends because the message `m` is out of turn. -/
def unexpected (m : Message) : Step Unit := do
  let e ← get
  if e.wantsMessage then fail (.unexpectedHandshake m.name e.wantedMessages)
  else fail (.unexpectedRecord "Handshake" e.wantedRecords)

/-- Ends because a record of type `type` is out of turn. -/
def unexpectedRecord (type : ContentType) : Step Unit := do
  fail (.unexpectedRecord type.name (← get).wantedRecords)

/-! ### Messages -/

/-- The end of the handshake. -/
def finish : Step Unit := do
  let e ← get
  match e.role, e.isModern with
  | .client, true => finishClient
  | .server, true => finishServer
  | .client, false => pure ()
  | .server, false =>
    modify (·.sendChange)
    modify fun e => e.writeUnder e.talk.trafficKeys.server
    say (.finished (e.finishedCode .server))
    flush
  expect .traffic

/-- Takes a message of the handshake, given in its written form too. -/
def receiveMessage (m : Message) (message : Bytes) : Step Unit := do
  let e ← get
  match e.role, e.expected, m with
  | .server, .clientHello, .clientHello h => answerHello h message
  | .server, .certificate, .certificate chain => acceptClient chain message
  | .server, .clientKeyExchange, .clientKeyExchange body => acceptShareOfClient body message
  | .server, .certificateVerify, .certificateVerify scheme signature =>
    checkVerify scheme signature
    note message
    expect (if e.isModern then .finished else .changeCipher)
  | .client, .serverHello, .serverHello h => acceptHello h message
  | .client, .serverHello, .retryRequest r =>
    if e.speaks .tls13 ∧ !e.talk.retried then acceptRetry r message else unexpected m
  | .client, .answers, .answers _ => do note message; expect .requestOrCertificate
  | .client, .requestOrCertificate, .certificateRequest schemes _ =>
    note message
    learn fun t => { t with asked := some schemes }
    expect .certificate
  | .client, .requestOrCertificate, .certificate chain
  | .client, .certificate, .certificate chain =>
    note message
    learn fun t => { t with chain }
    expect (if e.isModern then .certificateVerify
      else if e.talk.statusDue then .statusOrKeyExchange else .serverKeyExchange)
  | .client, .certificateVerify, .certificateVerify scheme signature =>
    if e.talk.chain.isEmpty then throw .noCertificates
    checkChain e.talk.chain
    checkVerify scheme signature
    note message
    expect .finished
  | .client, .statusOrKeyExchange, .certificateStatus => do note message; expect .serverKeyExchange
  | .client, .statusOrKeyExchange, .serverKeyExchange body
  | .client, .serverKeyExchange, .serverKeyExchange body =>
    note message
    let keyExchange ← check ((KeyExchange.decode body).mapError .corrupt)
    learn fun t => { t with keyExchange }
    expect .requestOrDone
  | .client, .requestOrDone, .certificateRequest schemes _ =>
    note message
    learn fun t => { t with asked := some schemes }
    expect .done
  | .client, .requestOrDone, .serverHelloDone | .client, .done, .serverHelloDone => answerDone message
  | .client, .ticket, .ticket => do note message; expect .changeCipher
  | _, .finished, .finished code =>
    aligned
    checkFinished code
    note message
    finish
  | .client, .traffic, .ticket => if e.isModern then pure () else unexpected m
  | _, _, _ => unexpected m

/-- Takes the bytes of a message of the handshake. -/
def receiveBody (modern : Bool) (kind : UInt8) (body : Bytes) : Step Unit := do
  match Message.decode modern kind body with
  | .error how => fail (.corrupt how)
  | .ok m => receiveMessage m (kind :: Wire.vector 3 body)

/-! ### Other records -/

/-- The most warnings that a peer may send. -/
def maxWarnings : Nat := 4

/-- Takes an alert. The peer's last word counts once the handshake is over; a warning has no effect, but
version 1.3 knows only one warning. -/
def receiveAlert (level : UInt8) (alert : Alert) : Step Unit := do
  let e ← get
  if level ≠ warningLevel ∧ level ≠ fatalLevel then failWith .illegalParameter (.alerted alert)
  if alert = .closeNotify ∧ !e.handshaking then
    modify fun e => { e with peerClosed := true, intake := { e.intake with waiting := [] } }
  else if level = fatalLevel then fail (.alerted alert)
  else if e.warnings = maxWarnings then misbehaved .warnings
  else
    modify fun e => { e with warnings := e.warnings + 1 }
    if e.isModern ∧ alert ≠ .userCanceled then failWith .decodeError (.alerted alert)

/-- The most changes of keys that mean nothing. -/
def maxChanges : Nat := 2

/-- Takes a change of keys by the peer. In version 1.3 it means nothing during the handshake. -/
def receiveChange (payload : Bytes) : Step Unit := do
  let e ← get
  if e.isModern ∧ e.handshaking then
    if payload ≠ [1] then misbehaved .change
    else if e.changes = maxChanges then throw (.misbehaved .change)
    else modify fun e => { e with changes := e.changes + 1 }
  else match payload with
    | [] => fail (.corrupt (.missingData "u8"))
    | mark :: more =>
      if mark ≠ 1 then fail (.corrupt .invalidChange)
      if more ≠ [] then fail (.corrupt (.trailingData "ChangeCipherSpecPayload"))
      if e.expected = .changeCipher then
        aligned
        modify fun e => e.readUnder (e.talk.trafficKeys.of e.role.other)
        expect .finished
      else unexpectedRecord .changeCipherSpec

/-- Takes data of the peer's application. -/
def receiveData (payload : Bytes) : Step Unit := do
  let e ← get
  match e.expected, e.early with
  | .traffic, _ => modify fun e => { e with plaintext := e.plaintext ++ payload }
  | .clientHello, some left =>
    if payload.length ≤ left then modify fun e => { e with early := some (left - payload.length) }
    else unexpectedRecord .applicationData
  | _, _ => unexpectedRecord .applicationData

/-- Takes a record that holds no messages of the handshake. -/
def receiveRecord (r : Record) : Step Unit :=
  match r.type with
  | .changeCipherSpec => receiveChange r.payload
  | .alert =>
    match r.payload with
    | [level, code] => receiveAlert level ⟨code⟩
    | [] => fail (.corrupt (.missingData "AlertLevel"))
    | [_] => fail (.corrupt (.missingData "AlertDescription"))
    | _ => fail (.corrupt (.trailingData "AlertMessagePayload"))
  | .applicationData => receiveData r.payload
  | .handshake | .heartbeat => fail (.corrupt .invalidContentType)

/-! ### Records -/

/-- Whether a record is taken as it is although keys are in force: a change of keys always, and in
version 1.3 what may be an alert, as long as nothing was opened. -/
def passes (e : Engine) (r : Record) : Bool :=
  e.joiner.begun.isNone &&
    (r.type == .changeCipherSpec ||
      (r.type == .alert && e.isModern && !e.opened && decide (r.payload.length ≤ 2)))

/-- The next record of `data`, opened if keys are in force, and what follows it. Data that came too early
does not open, and is passed over. -/
def nextRecord (data : Bytes) : Step (Option (Record × Bytes)) := do
  match h : Record.next? data with
  | .error how => fail (.corrupt how)
  | .ok none => return none
  | .ok (some (r, rest)) =>
    have : rest.length < data.length := Record.length_lt_of_next? h
    let e ← get
    match e.receiving.key with
    | none => return some (r, rest)
    | some key =>
      if passes e r then return some (r, rest)
      else match Record.unprotect (e.version.getD .tls12) key e.receiving.number r with
        | some r =>
          modify fun e =>
            { e with opened := true, receiving := { e.receiving with number := e.receiving.number + 1 } }
          return some (r, rest)
        | none =>
          match e.skipping.filter (r.payload.length ≤ ·) with
          | none => fail .undecryptable
          | some left =>
            modify fun e => { e with skipping := some (left - r.payload.length) }
            if e.joiner.begun.isSome then misbehaved .interleavedEarlyData
            nextRecord rest
  termination_by data.length

/-- The most empty records in a row. -/
def maxBlanks : Nat := 10

/-- Works off the next record, if it is there whole. -/
def takeRecord : Step Bool := do
  let e ← get
  let some (r, rest) ← nextRecord e.intake.waiting | return false
  if e.joiner.begun.isSome ∧ r.type ≠ .handshake then misbehaved .interleaved
  if r.payload.isEmpty then
    if e.blanks = maxBlanks then misbehaved .emptyRecords
    modify fun e => { e with blanks := e.blanks + 1 }
  else modify fun e => { e with blanks := 0 }
  if r.type = .handshake then
    let (how, joiner) := e.joiner.add (r.major == 3 && r.minor == 4) r.payload
    modify fun e => { e with joiner, intake := e.intake.hold rest }
    if let some how := how then throw (.corrupt how)
    modify fun e => { e with skipping := none }
  else
    modify fun e => { e with intake := { e.intake with waiting := rest } }
    receiveRecord r
  return true

/-- Works off a message of the handshake, or else a record; says whether one was there. -/
def advance : Step Bool := do
  let e ← get
  match e.joiner.ready with
  | [] => takeRecord
  | (modern, kind, body) :: ready =>
    let joiner := { e.joiner with ready }
    let intake := if joiner.isIdle then e.intake.release else e.intake
    modify fun e => { e with joiner, intake }
    receiveBody modern kind body
    return true

/-- Works off at most `n` messages and records. -/
def workOff : (n : Nat) → Step Unit
  | 0 => return
  | n + 1 => do if ← advance then workOff n

end Step

/-- More messages and records than there can be in what was read. -/
def backlog (e : Engine) : Nat := e.intake.used + e.joiner.ready.length + 1

/-- Works off what is there. -/
def process (e : Engine) : Option Fault × Engine :=
  match e.fault with
  | some fault => (some fault, e)
  | none =>
    match ExceptT.run (Step.workOff e.backlog) e with
    | (.ok (), e) => (none, e)
    | (.error fault, e) => (some fault, { e with fault := some fault })

/-- The first fault is final. -/
theorem process_fault {e : Engine} {fault : Fault} (h : e.fault = some fault) :
    e.process = (some fault, e) := by
  rw [process, h]

end SessionEngine.Tls.Engine
