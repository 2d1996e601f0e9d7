import SessionEngine.Settings

/-! The heartbeat of a session: ping and pong tokens that travel as plain bytes, the exchange that
judges whether the peer still answers, and the stripping of tokens from the head of the received
bytes. The main statements are `strip_eq_nil_iff`, by which stripping stops only where no token
stands at the head, and `flatten_strip`, by which it removes tokens and nothing else. -/

namespace SessionEngine

/-- Which side of the exchange a heartbeat plays. -/
inductive BeatRole where
  /-- Pings on, whatever fails. -/
  | initiator
  /-- Gives up when the failures pass a threshold. -/
  | responder
  deriving DecidableEq, Repr, Inhabited

/-- Servers initiate, clients respond. -/
def BeatRole.ofRole : Role → BeatRole
  | .server => .initiator
  | .client => .responder

def BeatRole.name : BeatRole → String
  | .initiator => "Initiator"
  | .responder => "Responder"

/-- Where the exchange stands. -/
inductive BeatPhase where
  /-- No ping was ever sent. -/
  | idle
  /-- A ping is out, and the one before it was answered. -/
  | awaitingPong
  /-- A ping is out, and the one before it was not answered. -/
  | failed
  deriving DecidableEq, Repr, Inhabited

def BeatPhase.name : BeatPhase → String
  | .idle => "Idle"
  | .awaitingPong => "AwaitingPong"
  | .failed => "Failed"

inductive Token where
  | ping
  | pong
  deriving DecidableEq, Repr, Inhabited

/-- The heartbeat of one session. -/
structure Heartbeat where
  ping : Bytes
  pong : Bytes
  role : BeatRole
  phase : BeatPhase
  /-- The unanswered pings in a row, modulo `2^32`. -/
  failures : UInt32
  /-- Whether a pong came since the last beat. -/
  answered : Bool
  lastBeat : Option Nat
  deriving DecidableEq, Repr

namespace Heartbeat

def new (ping pong : Bytes) (role : BeatRole) : Heartbeat :=
  ⟨ping, pong, role, .idle, 0, false, none⟩

def bytes (h : Heartbeat) : Token → Bytes
  | .ping => h.ping
  | .pong => h.pong

/-- Whether the previous ping was answered; before the first beat nothing is amiss. -/
def alive (h : Heartbeat) : Bool :=
  match h.phase with
  | .idle => true
  | .awaitingPong | .failed => h.answered

/-- The heartbeat after a beat at `now` that judged the previous ping. -/
def beat (h : Heartbeat) (now : Nat) : Heartbeat :=
  { h with
    failures := match h.phase with
      | .idle => h.failures
      | .awaitingPong | .failed => if h.answered then 0 else h.failures + 1
    answered := false
    lastBeat := some now
    phase := if h.alive then .awaitingPong else .failed }

/-- The heartbeat after a ping that could not be sent. -/
def unsent (h : Heartbeat) : Heartbeat := { h with phase := .failed }

/-- Whether the caller should close: a responder that was left without an answer more than
`threshold` times in a row. -/
def shouldClose (h : Heartbeat) (threshold : Nat) : Bool :=
  h.role == .responder && decide (threshold < h.failures.toNat)

/-- What follows `token` at the head of `data`; an empty token never stands there. -/
def afterToken? (token data : Bytes) : Option Bytes :=
  if token.isEmpty then none else Bytes.after? token data

/-- The token at the head of `data` and what follows it; a ping is looked for first. -/
def head? (h : Heartbeat) (data : Bytes) : Option (Token × Bytes) :=
  match afterToken? h.ping data with
  | some rest => some (.ping, rest)
  | none => (afterToken? h.pong data).map (Token.pong, ·)

theorem afterToken?_some {token data rest : Bytes} (h : afterToken? token data = some rest) :
    data = token ++ rest ∧ token ≠ [] := by
  unfold afterToken? at h
  split at h
  next => simp at h
  next hne => exact ⟨Bytes.after?_eq_some_iff.mp h, by simpa using hne⟩

theorem head?_some {h : Heartbeat} {data rest : Bytes} {token : Token}
    (hh : h.head? data = some (token, rest)) :
    data = h.bytes token ++ rest ∧ h.bytes token ≠ [] := by
  unfold head? at hh
  split at hh
  next r hr =>
    obtain ⟨rfl, rfl⟩ := Prod.mk.inj (Option.some.inj hh)
    exact afterToken?_some hr
  next =>
    obtain ⟨r, hr, he⟩ := Option.map_eq_some_iff.mp hh
    obtain ⟨rfl, rfl⟩ := Prod.mk.inj he
    exact afterToken?_some hr

theorem length_lt_of_head? {h : Heartbeat} {data rest : Bytes} {token : Token}
    (hh : h.head? data = some (token, rest)) : rest.length < data.length := by
  obtain ⟨hdata, hne⟩ := head?_some hh
  have := List.length_pos_iff.mpr hne
  rw [hdata, List.length_append]
  omega

/-- The tokens at the head of `data`, in order, and what follows them. -/
def strip (h : Heartbeat) (data : Bytes) : List Token × Bytes :=
  match hh : h.head? data with
  | none => ([], data)
  | some (token, rest) =>
    have : rest.length < data.length := length_lt_of_head? hh
    let (tokens, rest) := h.strip rest
    (token :: tokens, rest)
  termination_by data.length

/-- The heartbeat after the arrival of `tokens`. -/
def receive (h : Heartbeat) (tokens : List Token) : Heartbeat :=
  { h with answered := h.answered || tokens.contains .pong }

/-- No token stands at the head of what stripping leaves. -/
theorem head?_strip (h : Heartbeat) (data : Bytes) : h.head? (h.strip data).2 = none := by
  fun_induction h.strip data with
  | case1 data hh => exact hh
  | case2 data token rest hh _ tokens rest' hs ih => simpa [hs] using ih

/-- Stripping removes the tokens it reports and nothing else. -/
theorem flatten_strip (h : Heartbeat) (data : Bytes) :
    ((h.strip data).1.map h.bytes).flatten ++ (h.strip data).2 = data := by
  fun_induction h.strip data with
  | case1 data hh => rfl
  | case2 data token rest hh _ tokens rest' hs ih =>
    rw [hs] at ih
    rw [(head?_some hh).1]
    simpa using ih

/-- Nothing is stripped exactly when no token stands at the head. -/
theorem strip_eq_nil_iff {h : Heartbeat} {data : Bytes} :
    (h.strip data).1 = [] ↔ h.head? data = none := by
  unfold strip
  split
  next hh => simp [hh]
  next hh => simp [hh]

end Heartbeat

end SessionEngine
