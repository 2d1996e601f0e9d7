import SessionEngine.Tls.Hello

/-! The messages of the handshake: a kind, a length of three bytes and a body, joined from as many
records as they take. Some bodies are written in another form in version 1.3. The main statement is
`split_encode`: a written message is cut off whole, whatever follows it. -/

namespace SessionEngine.Tls

open Wire Wire.Reader

/-- A message of the handshake. -/
inductive Message where
  | helloRequest
  | clientHello (hello : ClientHello)
  | serverHello (hello : ServerHello)
  | retryRequest (request : RetryRequest)
  | ticket
  | earlyDataEnd
  /-- The extensions that a server answers under keys. -/
  | answers (extensions : List Extension)
  | certificate (chain : List Bytes)
  | certificateStatus
  | serverKeyExchange (body : Bytes)
  | certificateRequest (schemes : List Nat) (authorities : List Bytes)
  | serverHelloDone
  | certificateVerify (scheme : Nat) (signature : Bytes)
  | clientKeyExchange (body : Bytes)
  | finished (code : Bytes)
  | keyUpdate
  | compressedCertificate
  /-- The message that stands for a client's first hello once there is a second one. -/
  | helloHash (hash : Bytes)
  /-- A message of a kind that nobody knows. -/
  | other (kind : UInt8)
  deriving DecidableEq, Repr, Inhabited

namespace Message

/-- The number of a message's kind on the wire. -/
def kind : Message → UInt8
  | .helloRequest => 0
  | .clientHello _ => 1
  | .serverHello _ => 2
  | .retryRequest _ => 2
  | .ticket => 4
  | .earlyDataEnd => 5
  | .answers _ => 8
  | .certificate _ => 11
  | .serverKeyExchange _ => 12
  | .certificateRequest .. => 13
  | .serverHelloDone => 14
  | .certificateVerify .. => 15
  | .clientKeyExchange _ => 16
  | .finished _ => 20
  | .certificateStatus => 22
  | .keyUpdate => 24
  | .compressedCertificate => 25
  | .helloHash _ => 254
  | .other kind => kind

/-- The kinds that have a name. -/
def names : List (UInt8 × String) :=
  [(0, "HelloRequest"), (1, "ClientHello"), (2, "ServerHello"), (3, "HelloVerifyRequest"),
   (4, "NewSessionTicket"), (5, "EndOfEarlyData"), (6, "HelloRetryRequest"),
   (8, "EncryptedExtensions"), (11, "Certificate"), (12, "ServerKeyExchange"),
   (13, "CertificateRequest"), (14, "ServerHelloDone"), (15, "CertificateVerify"),
   (16, "ClientKeyExchange"), (20, "Finished"), (21, "CertificateURL"), (22, "CertificateStatus"),
   (24, "KeyUpdate"), (25, "CompressedCertificate"), (254, "MessageHash")]

/-- The name of a kind; one without a name is written with its number. -/
def kindName (kind : UInt8) : String :=
  (names.lookup kind).getD s!"HandshakeType(0x{Alert.hex kind})"

def name : Message → String
  | .retryRequest _ => kindName 6
  | m => kindName m.kind

/-! ### Writing -/

/-- A message of version 1.3 that says nothing has an empty context. -/
def context : Bytes := vector 1 []

/-- A chain of certificates; `extensions` follows each. -/
def chainBody (chain : List Bytes) (extensions : Bytes) : Bytes :=
  vector 3 (chain.flatMap fun c => vector 3 c ++ extensions)

/-- The kinds of key that a client may sign by: those on curves, and RSA. -/
def keyKinds : Bytes := [64, 1]

/-- Names of authorities in their written form. -/
def authorityBody (authorities : List Bytes) : Bytes := vector 2 (authorities.flatMap (vector 2))

/-- The seconds for which a ticket is good. -/
def ticketLife : Nat := 86400

/-- The body of a ticket, which nobody comes back with. -/
def ticketBody : Bytes :=
  Bytes.word ticketLife ++ Bytes.word 0 ++ vector 1 (List.replicate 32 0) ++
    vector 2 (List.replicate 32 0) ++ vector 2 []

/-- The body of a message, in the form of version 1.3 if `modern` holds. -/
def body (modern : Bool) : Message → Bytes
  | .clientHello h => h.encode
  | .serverHello h => h.encode
  | .retryRequest r => r.encode
  | .ticket => ticketBody
  | .answers extensions => vector 2 (Extension.encode extensions)
  | .certificate chain => if modern then context ++ chainBody chain (vector 2 []) else chainBody chain []
  | .certificateRequest schemes authorities =>
    let schemes := vector 2 (schemes.flatMap word16)
    if modern then
      let named := if authorities.isEmpty then [] else
        [⟨Extension.authorities, authorityBody authorities⟩]
      context ++ vector 2 (Extension.encode (⟨Extension.schemes, schemes⟩ :: named))
    else vector 1 keyKinds ++ schemes ++ authorityBody authorities
  | .certificateVerify scheme signature => word16 scheme ++ vector 2 signature
  | .serverKeyExchange body | .clientKeyExchange body | .finished body | .helloHash body => body
  | .helloRequest | .earlyDataEnd | .certificateStatus | .serverHelloDone | .keyUpdate
  | .compressedCertificate | .other _ => []

/-- A message in its written form. -/
def encode (modern : Bool) (m : Message) : Bytes := m.kind :: vector 3 (m.body modern)

/-! ### Reading -/

/-- The hello of a server, or its request for another one. -/
def serverHelloReader : Reader Message := do
  let version ← Extension.version
  let random ← Hello.random
  if random = RetryRequest.random then return .retryRequest (← RetryRequest.decode version)
  else return .serverHello (← ServerHello.decode version random)

/-- A ticket, in the form of version 1.3 if `modern` holds. -/
def ticketReader (modern : Bool) : Reader Message := do
  let _ ← u32
  if modern then
    let _ ← u32
    let _ ← opaqueBytes u8
    let _ ← opaqueBytes (positive u16 .emptyTicket)
    let check (code : Nat) := if code = Extension.earlyData then skip u32 else Extension.anything
    let _ ← Extension.list "NewSessionTicketExtensions" none check
  else
    let _ ← opaqueBytes u16
  return .ticket

/-- The most bytes of a chain of certificates. -/
def maxChain : Nat := 0x10000

/-- A chain of certificates, in the form of version 1.3 if `modern` holds. -/
def chainReader (modern : Bool) : Reader Message := do
  if modern then
    let _ ← opaqueBytes u8
  let length ← u24
  if maxChain < length then throw .certificatePayloadTooLarge
  let chain ← within length <| each do
    let certificate ← opaqueBytes u24
    if modern then
      let check (code : Nat) := if code = Extension.status then statusBody
        else throw .unknownCertificateExtension
      let _ ← Extension.list "CertificateExtensions" none check
    return certificate
  return .certificate chain
where
  /-- Proof that a certificate is still good. -/
  statusBody : Reader Unit := do
    if (← number 1 "CertificateStatusType") ≠ 1 then throw .invalidStatusType
    let _ ← opaqueBytes u24

/-- Schemes of signature. -/
def schemeReader : Reader (List Nat) :=
  list (positive u16 .noSignatureSchemes) (number 2 "SignatureScheme")

/-- A request for the client's certificate, in the form of version 1.3 if `modern` holds. -/
def requestReader (modern : Bool) : Reader Message := do
  if modern then
    let _ ← opaqueBytes u8
    let check (code : Nat) : Reader Unit :=
      if code = Extension.schemes then skip schemeReader
      else if code = Extension.authorities then skip (list u16 (filled u16))
      else if code = Extension.compressors then
        skip (list8 "CertificateCompressionAlgorithms" (number 2 "CertificateCompressionAlgorithm"))
      else Extension.anything
    let extensions ← Extension.list "CertificateRequestExtensions" none check
    return .certificateRequest
      ((Extension.find? extensions Extension.schemes schemeReader).getD []) []
  else
    let _ ← list8 "ClientCertificateTypes" (number 1 "ClientCertificateType")
    let schemes ← schemeReader
    return .certificateRequest schemes (← list u16 (filled u16))

/-- Reads the body of a message of kind `kind`, in the form of version 1.3 if `modern` holds. -/
def reader (modern : Bool) (kind : UInt8) : Reader Message := do
  if kind = 0 ∧ (← isDone) then return .helloRequest
  else if kind = 1 then return .clientHello (← ClientHello.decode)
  else if kind = 2 then serverHelloReader
  else if kind = 4 then ticketReader modern
  else if kind = 5 then do done "EndOfEarlyData"; return .earlyDataEnd
  else if kind = 8 then return .answers (← ServerHello.extensionList)
  else if kind = 11 then chainReader modern
  else if kind = 12 then return .serverKeyExchange (← rest)
  else if kind = 13 then requestReader modern
  else if kind = 14 then do done "ServerHelloDone"; return .serverHelloDone
  else if kind = 15 then
    let scheme ← number 2 "SignatureScheme"
    return .certificateVerify scheme (← opaqueBytes u16)
  else if kind = 16 then return .clientKeyExchange (← rest)
  else if kind = 20 then return .finished (← rest)
  else if kind = 22 then do chainReader.statusBody; return .certificateStatus
  else if kind = 24 then do skip (number 1 "KeyUpdateRequest"); return .keyUpdate
  else if kind = 25 then
    let _ ← number 2 "CertificateCompressionAlgorithm"
    let _ ← u24
    let _ ← opaqueBytes u24
    return .compressedCertificate
  else if kind = 6 ∨ kind = 254 then throw (.unexpectedMessage (kindName kind))
  else
    let _ ← rest
    return .other kind

/-- The message of kind `kind` with body `body`, in the form of version 1.3 if `modern` holds. -/
def decode (modern : Bool) (kind : UInt8) (body : Bytes) : Except Corruption Message :=
  (do
    let m ← reader modern kind
    done "HandshakeMessagePayload"
    return m : Reader Message).ofBytes body

/-! ### Cutting -/

/-- A body has to be shorter than this. -/
def bodyBound : Nat := 65536

/-- The kind and body of the message at the head of `data` and what follows it, once it is there
whole. -/
def next? (data : Bytes) : Except Corruption (Option (UInt8 × Bytes × Bytes)) :=
  match data with
  | kind :: a :: b :: c :: rest =>
    let n := Bytes.bigEndian [a, b, c]
    if bodyBound ≤ n then .error .handshakePayloadTooLarge
    else if rest.length < n then .ok none
    else .ok (some (kind, rest.take n, rest.drop n))
  | _ => .ok none

theorem length_lt_of_next? {data body rest : Bytes} {kind : UInt8}
    (h : next? data = .ok (some (kind, body, rest))) : rest.length < data.length := by
  unfold next? at h
  split at h
  next kind' a b c rest' =>
    simp only at h
    split at h
    · simp at h
    · split at h
      · simp at h
      · simp only [Except.ok.injEq, Option.some.injEq, Prod.mk.injEq] at h
        obtain ⟨-, -, rfl⟩ := h
        simp only [List.length_drop, List.length_cons]
        omega
  next => simp at h

/-- The kinds and bodies of the messages that are whole in `data`, and what follows them; one that is
too long spoils all of them. -/
def split (data : Bytes) : Except Corruption (List (UInt8 × Bytes) × Bytes) :=
  match h : next? data with
  | .error how => .error how
  | .ok none => .ok ([], data)
  | .ok (some (kind, body, rest)) =>
    have : rest.length < data.length := length_lt_of_next? h
    (split rest).map fun (messages, rest) => ((kind, body) :: messages, rest)
  termination_by data.length

theorem next?_encode {modern : Bool} {m : Message} (h : (m.body modern).length < bodyBound)
    (rest : Bytes) :
    next? (m.encode modern ++ rest) = .ok (some (m.kind, m.body modern, rest)) := by
  have hbound : bodyBound = 65536 := rfl
  have hn : Bytes.bigEndian (Bytes.fixed 3 (m.body modern).length) = (m.body modern).length := by
    simp only [Bytes.fixed, Bytes.bigEndian, List.nil_append, List.cons_append, List.foldl_cons,
      List.foldl_nil, UInt8.toNat_ofNat']
    omega
  simp only [Bytes.fixed, List.nil_append, List.cons_append] at hn
  simp only [encode, vector, Bytes.fixed, List.nil_append, List.cons_append, next?, hn]
  rw [if_neg (by omega), if_neg (by simp), List.take_left, List.drop_left]

/-- A written message is cut off whole, whatever follows it. -/
theorem split_encode {modern : Bool} {m : Message} (h : (m.body modern).length < bodyBound)
    (rest : Bytes) :
    split (m.encode modern ++ rest) =
      (split rest).map fun (messages, left) => ((m.kind, m.body modern) :: messages, left) := by
  rw [split]
  split
  · next how hn => rw [next?_encode h] at hn; cases hn
  · next hn => rw [next?_encode h] at hn; cases hn
  · next kind body left hn =>
    rw [next?_encode h] at hn
    cases hn
    rfl

end Message

end SessionEngine.Tls
