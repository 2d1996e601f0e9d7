import SessionEngine.Error
import SessionEngine.Role
import SessionEngine.Tls.Version

/-! The TLS layer of one session: records from the peer go in and plaintext comes out, plaintext to
send goes in and records come out. It works with any record engine. Plaintext that is to be sent
while the handshake goes on is held back until it is over. The main statements are `held_wrap`, by
which a channel only holds plaintext back during the handshake, and `ciphertext_digest`, by which
the engine takes ciphertext from the front. -/

namespace SessionEngine.Tls

/-- What a channel asks of the engine that makes and opens records. Any of it may fail, whatever the engine
made of itself before, but for the records that it has queued: they go to memory. -/
class RecordEngine (ε : Type) where
  /-- Takes a head of the given bytes and says how long it is. -/
  accept : ε → Bytes → Except IoError Nat × ε
  /-- Works off the records that were accepted whole. -/
  process : ε → Option Fault × ε
  /-- Takes the plaintext that the peer wrote, until there is no more of it or it cannot be read. -/
  drain : ε → Option IoError × Bytes × ε
  /-- Queues plaintext for the peer. -/
  write : ε → Bytes → Except IoError Unit × ε
  /-- Takes the records that are queued for the peer. -/
  emit : ε → Bytes × ε
  /-- Queues the notice that nothing more will be written. -/
  closeNotify : ε → ε
  handshaking : ε → Bool
  /-- The version that was agreed on, once it is known. -/
  version : ε → Option Version

/-- Where there is no TLS there is no engine. -/
instance : RecordEngine Empty where
  accept := nofun
  process := nofun
  drain := nofun
  write := nofun
  emit := nofun
  closeNotify := nofun
  handshaking := nofun
  version := nofun

/-- The TLS layer of one session. -/
structure Channel (ε : Type) where
  engine : ε
  /-- The number of the session. -/
  session : Nat
  role : Role
  /-- Bytes from the peer that the engine has not taken. -/
  ciphertext : Bytes := []
  /-- Plaintext from the peer that the session has not taken. -/
  received : Bytes := []
  /-- Plaintext held back until the handshake is over. -/
  held : Bytes := []

namespace Channel

variable {ε : Type} [RecordEngine ε]

/-- Whether the handshake is still going on. -/
def handshaking (c : Channel ε) : Bool := RecordEngine.handshaking c.engine

/-- The version that was agreed on, once it is known. -/
def version (c : Channel ε) : Option Version := RecordEngine.version c.engine

/-- The error that a fault is reported as: it is the handshake's as long as that goes on. -/
def failure (c : Channel ε) (fault : Fault) : Error :=
  if c.handshaking then .handshake (.protocol fault) else .ofFault fault

/-- Takes what the engine has of the peer's plaintext, as far as it can be read. -/
def drain (c : Channel ε) : Except Error Unit × Channel ε :=
  let (failure, data, engine) := RecordEngine.drain c.engine
  (match failure with
    | none => .ok ()
    | some cause => .error (.read cause),
    { c with engine, received := c.received ++ data })

/-- Gives `pending` to the engine, as much at once as it takes, until it takes nothing, refuses to take
anything or finds a fault. What the engine has of the peer's plaintext is taken after each step without a
fault. -/
def digest (c : Channel ε) (pending : Bytes) : Except Error Unit × Channel ε :=
  if hp : pending = [] then (.ok (), { c with ciphertext := [] })
  else match RecordEngine.accept c.engine pending with
    | (.error cause, engine) => (.error (.read cause), { c with engine, ciphertext := pending })
    | (.ok n, engine) =>
      let (fault, engine) := RecordEngine.process engine
      let c := { c with engine, ciphertext := pending.drop n }
      match fault with
      | some fault => (.error (c.failure fault), c)
      | none =>
        match c.drain with
        | (.error e, c) => (.error e, c)
        | (.ok (), c) =>
          if h : n = 0 then (.ok (), c)
          else
            have : (pending.drop n).length < pending.length := by
              have := List.length_pos_iff.mpr hp
              rw [List.length_drop]
              omega
            c.digest (pending.drop n)
  termination_by pending.length

/-- Writes the plaintext that was held back, once the handshake is over. -/
def release (c : Channel ε) : Except Error Unit × Channel ε :=
  if c.handshaking || c.held.isEmpty then (.ok (), c)
  else
    let (result, engine) := RecordEngine.write c.engine c.held
    (result.mapError .send, { c with engine, held := [] })

/-- Takes in ciphertext. -/
def ingest (c : Channel ε) (data : Bytes) : Except Error Unit × Channel ε :=
  match c.digest (c.ciphertext ++ data) with
  | (.ok (), c) => c.release
  | failed => failed

def takePlaintext (c : Channel ε) : Bytes × Channel ε := (c.received, { c with received := [] })

/-- Takes the records that are queued for the peer. -/
def takeOutbound (c : Channel ε) : Bytes × Channel ε :=
  let (data, engine) := RecordEngine.emit c.engine
  (data, { c with engine })

/-- Takes in ciphertext and gives the plaintext it completes. -/
def unwrap (c : Channel ε) (data : Bytes) : Except Error Bytes × Channel ε :=
  match c.ingest data with
  | (.ok (), c) => let (plain, c) := c.takePlaintext; (.ok plain, c)
  | (.error e, c) => (.error e, c)

/-- Takes in plaintext and gives the records to send. -/
def wrap (c : Channel ε) (data : Bytes) : Except Error Bytes × Channel ε :=
  if c.handshaking then
    let (out, c) := { c with held := c.held ++ data }.takeOutbound
    (.ok out, c)
  else match RecordEngine.write c.engine data with
    | (.error cause, engine) => (.error (.send cause), { c with engine })
    | (.ok (), engine) => let (out, c) := { c with engine }.takeOutbound; (.ok out, c)

/-- Says that nothing more will be written, and gives the records to send. -/
def closeNotify (c : Channel ε) : Bytes × Channel ε :=
  { c with engine := RecordEngine.closeNotify c.engine }.takeOutbound

def ofEngine (engine : ε) (session : Nat) (role : Role) : Channel ε := { engine, session, role }

/-- The channel in a form for diagnostics. -/
def describe (c : Channel ε) : String :=
  s!"TlsParser \x7b session: {c.session}, client: {c.role == .client}, " ++
    s!"handshaking: {c.handshaking}, pending_plaintext: {c.held.length} \x7d"

/-- During the handshake plaintext is only held back. -/
theorem held_wrap {c : Channel ε} (h : c.handshaking = true) (data : Bytes) :
    (c.wrap data).2.held = c.held ++ data := by
  simp [wrap, h, takeOutbound]

theorem ciphertext_of_drain {c c' : Channel ε} {result : Except Error Unit} (h : c.drain = (result, c')) :
    c'.ciphertext = c.ciphertext :=
  congrArg (·.2.ciphertext) h.symm

/-- Nothing is lost between a channel and the engine: what is left over is a tail of what was there. -/
theorem ciphertext_digest (c : Channel ε) (pending : Bytes) :
    (c.digest pending).2.ciphertext <:+ pending := by
  fun_induction digest c pending with
  | case1 => exact List.nil_suffix
  | case2 => exact List.suffix_refl _
  | case3 => exact List.drop_suffix ..
  | case4 _ pending _ n =>
    next hdrain _ => exact ciphertext_of_drain hdrain ▸ List.drop_suffix n pending
  | case5 _ pending =>
    next hdrain _ => exact ciphertext_of_drain hdrain ▸ List.drop_suffix 0 pending
  | case6 _ _ _ _ _ _ _ _ _ _ _ _ _ ih => exact ih.trans (List.drop_suffix ..)

end Channel

end SessionEngine.Tls
