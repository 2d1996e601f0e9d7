import SessionEngine.Session.Dispatch
import SessionEngine.Traffic

/-! The loop that reads from a connection and feeds its session. Every read gives bytes, or nothing
within the read timeout, or the end; the loop also ends when the session closes. -/

namespace SessionEngine

inductive ReadOutcome where
  | data (bytes : Bytes)
  /-- Nothing came within the read timeout. -/
  | timedOut
  /-- The peer writes no more. -/
  | ended
  | failed (cause : IoError)
  /-- The loop has seen that the session closes. -/
  | closing
  deriving DecidableEq, Repr, Inhabited

/-- A read loop at work: its session, its counters, and whether it goes on. -/
structure ReadLoop (ε : Type) where
  session : Session ε
  traffic : Traffic
  running : Bool

namespace ReadLoop

variable {ε : Type}

/-- Queues an event. -/
def fire (l : ReadLoop ε) (e : Event) : ReadLoop ε := { l with session := l.session.fire e }

variable [Tls.RecordEngine ε]

/-- The loop ends: the connection is not active any more, and the session closes. -/
def stop (l : ReadLoop ε) : ReadLoop ε :=
  { session := l.session.close.2.unwatchClose, traffic := l.traffic.connectionClosed,
    running := false }

/-- The loop begins to watch for the close; plaintext that came with the handshake is dispatched. -/
def start (s : Session ε) (t : Traffic) (now : Nat) : ReadLoop ε :=
  { session := (s.watchClose.dispatch now).2, traffic := t, running := true }

/-- The loop after a read that ended at `now`. -/
def step (l : ReadLoop ε) (now : Nat) (outcome : ReadOutcome) : ReadLoop ε :=
  if !l.running then l
  else match outcome with
    | .closing => l.stop
    | .timedOut =>
      let (n, session) := l.session.dispatch now
      let l := { l with session }
      if n = 0 then l.fire .idle else l
    | .ended => { l with session := (l.session.dispatch now).2 }.stop
    | .data bytes =>
      let l := { l with traffic := l.traffic.read bytes.length }
      match l.session.feed now bytes with
      | (.error e, session) => ({ l with session }.fire (.exception e)).stop
      | (.ok (), session) => { l with session := (session.dispatch now).2 }
    | .failed cause =>
      (if l.session.isConnected then l.fire (.exception (.read cause)) else l).stop

/-- The loop after reads that ended at the given times. -/
def run (l : ReadLoop ε) (outcomes : List (Nat × ReadOutcome)) : ReadLoop ε :=
  outcomes.foldl (fun l (now, outcome) => l.step now outcome) l

/-- The reads that time out between `armed`, when the first one begins, and `stop`: each waits for
`timeout`, and the next one begins when it is over. -/
def silences (timeout armed stop : Nat) : List (Nat × ReadOutcome) :=
  (List.range ((stop - armed - 1) / timeout)).map fun k => (armed + timeout * (k + 1), .timedOut)

/-- The reads of a loop whose first one begins at `armed`, when the given bytes come at the given
times and then nothing until `stop`. -/
def outcomes (timeout armed stop : Nat) : List (Nat × Bytes) → List (Nat × ReadOutcome)
  | [] => silences timeout armed stop
  | (time, bytes) :: rest =>
    silences timeout armed time ++ (time, .data bytes) :: outcomes timeout time stop rest

/-- A loop that has ended does nothing more. -/
theorem run_of_not_running {l : ReadLoop ε} (h : l.running = false)
    (outcomes : List (Nat × ReadOutcome)) : l.run outcomes = l := by
  induction outcomes with
  | nil => rfl
  | cons o rest ih =>
    have hstep : l.step o.1 o.2 = l := by simp [step, h]
    simpa [run, hstep] using ih

end ReadLoop

end SessionEngine
