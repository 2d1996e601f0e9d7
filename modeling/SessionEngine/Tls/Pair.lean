import SessionEngine.Tls.Handshake

/-! Two channels joined by a wire on which the bytes to each side wait until they are delivered. The
main statement is `inFlight_post`: what one side sends waits behind what it sent before. -/

namespace SessionEngine.Tls

namespace Channel

variable {ε : Type} [RecordEngine ε]

/-- Takes in pieces of ciphertext until one fails; gives the plaintext and the failure. -/
def unwrapAll (c : Channel ε) : (pieces : List Bytes) → Bytes × Option Error × Channel ε
  | [] => ([], none, c)
  | piece :: rest =>
    match c.unwrap piece with
    | (.error e, c) => ([], some e, c)
    | (.ok plain, c) =>
      let (more, failure, c) := c.unwrapAll rest
      (plain ++ more, failure, c)

end Channel

/-- A client's and a server's channel, and the bytes on their way to each. -/
structure Pair (ε : Type) where
  client : Channel ε
  server : Channel ε
  toClient : Bytes := []
  toServer : Bytes := []

namespace Pair

variable {ε : Type}

/-- The channel of one side. -/
def channel (p : Pair ε) : Role → Channel ε
  | .client => p.client
  | .server => p.server

def setChannel (p : Pair ε) (side : Role) (c : Channel ε) : Pair ε :=
  match side with
  | .client => { p with client := c }
  | .server => { p with server := c }

/-- The bytes on their way to one side. -/
def inFlight (p : Pair ε) : Role → Bytes
  | .client => p.toClient
  | .server => p.toServer

/-- The pair with other bytes on their way to one side. -/
def setInFlight (p : Pair ε) (side : Role) (data : Bytes) : Pair ε :=
  match side with
  | .client => { p with toClient := data }
  | .server => { p with toServer := data }

/-- Bytes that one side sends to the other. -/
def post (p : Pair ε) (side : Role) (data : Bytes) : Pair ε :=
  p.setInFlight side.other (p.inFlight side.other ++ data)

@[simp] theorem inFlight_setInFlight (p : Pair ε) (side : Role) (data : Bytes) :
    (p.setInFlight side data).inFlight side = data := by
  cases side <;> rfl

theorem inFlight_post (p : Pair ε) (side : Role) (data : Bytes) :
    (p.post side data).inFlight side.other = p.inFlight side.other ++ data :=
  inFlight_setInFlight ..

variable [RecordEngine ε]

/-- Delivers the first `n` bytes that wait for one side, cut into pieces; what waits behind them
stays. -/
def deliver (p : Pair ε) (side : Role) (n : Nat) (cut : Bytes → List Bytes) :
    Bytes × Option Error × Pair ε :=
  let flight := p.inFlight side
  let (plain, failure, c) := (p.channel side).unwrapAll (cut (flight.take n))
  (plain, failure, (p.setChannel side c).setInFlight side (flight.drop n))

/-- The handshake of both sides over pipes that hold `size` bytes, for which they had `millis`
milliseconds. The bytes on their way take no part in it, and what is left in the pipes waits behind
them. -/
def handshake (p : Pair ε) (size millis : Nat) :
    Option (Except Error Unit) × Option (Except Error Unit) × Pair ε :=
  let (a, b) := Party.handshake size p.client p.server
  (a.result millis, b.result millis,
    ⟨a.channel, b.channel, p.toClient ++ a.inbox, p.toServer ++ b.inbox⟩)

end Pair

end SessionEngine.Tls
