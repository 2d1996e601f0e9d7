import SessionEngine.Session

/-! Reading the next message while others feed the session. A read sleeps until the buffer changes or
its window has passed; the window starts with the read and starts again with every byte that comes.
The main statement is `read_of_pass`: a read that finds something at once does not sleep. -/

namespace SessionEngine

/-- What another thread does to a session. -/
inductive Intrusion where
  | feed (data : Bytes)
  | close
  deriving DecidableEq, Repr

/-- How a read ends: its result, the session and the time then, and what others do later. -/
structure ReadEnd (ε : Type) where
  result : Except Error Bytes
  session : Session ε
  time : Nat
  later : List (Nat × Intrusion)

namespace Session

variable {ε : Type} [Tls.RecordEngine ε]

/-- The session after what another thread does at `now`. -/
def intrude (s : Session ε) (now : Nat) : Intrusion → Session ε
  | .feed data => (s.feed now data).2
  | .close => s.close.2

/-- When a read that began at `started` gives up. -/
def deadline (s : Session ε) (started : Nat) : Nat :=
  max started (s.buffer.lastArrival.getD 0) + s.settings.readTimeout

/-- Looks for a message, then for the end of the session. -/
def look (s : Session ε) (now : Nat) : Option (Except Error Bytes) × Session ε :=
  match s.takeMessage now with
  | (.error e, s) => (some (.error e), s)
  | (.ok (some message), s) => (some (.ok message), s)
  | (.ok none, s) =>
    if !s.buffer.closed then (none, s)
    else if s.buffer.isEmpty then (some (.error .closed), s)
    else
      let (rest, buffer) := s.buffer.takeAll
      (some (.ok rest), { s with buffer })

/-- The last look of a read, when its window has passed. -/
def lastLook (s : Session ε) (now : Nat) : Except Error Bytes × Session ε :=
  match s.takeMessage now with
  | (.error e, s) => (.error e, s)
  | (.ok (some message), s) => (.ok message, s)
  | (.ok none, s) => (.error (.readTimeout (Span.toMillis s.settings.readTimeout)), s)

/-- What a read that wakes at `now` does: it looks, and if its window has passed, for the last
time. -/
def pass (s : Session ε) (started now : Nat) : Option (Except Error Bytes) × Session ε :=
  match s.look now with
  | (some result, s) => (some result, s)
  | (none, s) =>
    if now < s.deadline started then (none, s)
    else
      let (result, s) := s.lastLook now
      (some result, s)

/-- What a read that sleeps until its deadline does then. -/
def expire (s : Session ε) (started : Nat) (later : List (Nat × Intrusion)) : ReadEnd ε :=
  let time := s.deadline started
  match s.pass started time with
  | (some result, s) => ⟨result, s, time, later⟩
  | (none, s) => ⟨(s.lastLook time).1, (s.lastLook time).2, time, later⟩

/-- A read that has found nothing in generation `seen` sleeps: others do what is listed at the given
times, in order of time. It wakes when the buffer has changed, and at its deadline. -/
def sleep (s : Session ε) (started : Nat) (seen : UInt64) : List (Nat × Intrusion) → ReadEnd ε
  | [] => s.expire started []
  | (time, act) :: rest =>
    if s.deadline started ≤ time then s.expire started ((time, act) :: rest)
    else
      let s := s.intrude time act
      if s.buffer.changedSince seen then
        match s.pass started time with
        | (some result, s) => ⟨result, s, time, rest⟩
        | (none, s) => s.sleep started s.buffer.generation rest
      else s.sleep started seen rest

/-- Reads the next message, from time `started` on. -/
def read (s : Session ε) (started : Nat) (others : List (Nat × Intrusion)) : ReadEnd ε :=
  match s.pass started started with
  | (some result, s) => ⟨result, s, started, others⟩
  | (none, s) => s.sleep started s.buffer.generation others

/-- Reads the next message; then others do what they had yet to do, none of it before the read is
over. -/
def readThrough (s : Session ε) (started : Nat) (others : List (Nat × Intrusion)) : ReadEnd ε :=
  let e := s.read started others
  let session := e.later.foldl (fun s (time, act) => s.intrude (max time e.time) act) e.session
  { e with session, time := e.later.foldl (fun t x => max t x.1) e.time, later := [] }

theorem read_of_pass {s s' : Session ε} {started : Nat} {result : Except Error Bytes}
    (h : s.pass started started = (some result, s')) (others : List (Nat × Intrusion)) :
    s.read started others = ⟨result, s', started, others⟩ := by
  simp [read, h]

end Session

end SessionEngine
