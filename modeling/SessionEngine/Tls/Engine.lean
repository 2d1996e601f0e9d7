import SessionEngine.Tls.Engine.Receive

/-! One side of a TLS connection, without any input or output of its own: bytes from the peer go in,
plaintext and bytes for the peer come out. The main statement is
`waiting_accept`: bytes are accepted from the front and kept in order. -/

namespace SessionEngine.Tls.Engine

/-- The most bytes of the peer's plaintext that are kept before nothing more is read. -/
def plaintextBound : Nat := 16384

/-- Takes a head of `data` and says how long it is: nothing once the peer has closed. Nothing is taken
either while too much is kept that was not worked off or not taken out. -/
def accept (e : Engine) (data : Bytes) : Except IoError (Nat × Engine) :=
  if plaintextBound < e.plaintext.length then .error ⟨.other, "received plaintext buffer full"⟩
  else if e.peerClosed then .ok (0, e)
  else match e.intake.read? (!e.joiner.isIdle) data with
    | none => .error ⟨.invalidData, "message buffer full"⟩
    | some (n, intake) => .ok (n, { e with intake })

/-- Queues `data` for the peer. -/
def write (e : Engine) (data : Bytes) : Except Fault Engine :=
  match e.fault with
  | some fault => if data.isEmpty then .ok e else .error fault
  | none => .ok (e.send .applicationData data)

/-- Takes what is queued for the peer. -/
def emit (e : Engine) : Bytes × Engine := (e.outgoing, { e with outgoing := [] })

/-- Takes what the peer wrote. -/
def drain (e : Engine) : Bytes × Engine := (e.plaintext, { e with plaintext := [] })

/-- A client that calls the server `host`; its hello is queued. -/
def client (policy : Policy) (host : String) (seed : Nat) : Except ConfigFault Engine :=
  match ServerName.parse host with
  | .error fault => .error fault
  | .ok name =>
    let e : Engine :=
      { role := .client, policy, serverName := some name, seed, expected := .serverHello }
    let session := if e.speaks .tls13 then e.drawSession else []
    let e := { e with talk := { clientRandom := e.drawRandom, session } }
    .ok ((Step.sayHello 1).run e).2

def server (policy : Policy) (seed : Nat) : Except ConfigFault Engine :=
  if policy.canServe then
    .ok { role := .server, policy, serverName := none, seed, expected := .clientHello }
  else .error .noIdentity

/-- What is accepted is a head of what is given, and it waits behind what was accepted before. -/
theorem waiting_accept {e e' : Engine} {data : Bytes} {n : Nat} (h : e.accept data = .ok (n, e')) :
    e'.intake.waiting = e.intake.waiting ++ data.take n := by
  unfold accept at h
  split at h
  · cases h
  · split at h
    · cases h; simp
    · split at h
      · cases h
      · next hread => cases h; exact Intake.waiting_read hread

end SessionEngine.Tls.Engine
