import SessionEngine.Session
import SessionEngine.Traffic

/-! The loop that writes what a session has handed to its writer. A write that fails closes the
session; what is queued behind it, or behind the close, is still tried until a write fails. The main
statement is `flatten_sent_flush`: when no write fails, everything that was queued goes out, in
order. -/

namespace SessionEngine

/-- A write loop at work: its session, its counters, how many of the payloads it has tried, those
that the connection took, and whether the loop goes on. -/
structure WriteLoop (ε : Type) where
  session : Session ε
  traffic : Traffic
  tried : Nat
  sent : List Bytes
  running : Bool

namespace WriteLoop

variable {ε : Type}

/-- The loop begins to watch for the close. -/
def start (s : Session ε) (t : Traffic) : WriteLoop ε :=
  { session := s.watchClose, traffic := t, tried := 0, sent := [], running := true }

/-- The payloads that were not tried yet. -/
def queued (l : WriteLoop ε) : List Bytes := l.session.writer.taken.drop l.tried

/-- The payloads that go out when one after the other is tried until a write fails; those whose
outcome is not listed succeed. -/
def successes : (payloads : List Bytes) → (outcomes : List (Option IoError)) → List Bytes
  | [], _ => []
  | payloads, [] => payloads
  | payload :: payloads, none :: outcomes => payload :: successes payloads outcomes
  | _ :: _, some _ :: _ => []

/-- The loop ends: what is queued is tried, and then the writer is gone. -/
def flush (l : WriteLoop ε) (outcomes : List (Option IoError)) : WriteLoop ε :=
  { l with
    session := { l.session with writer := l.session.writer.drop }.unwatchClose
    tried := l.session.writer.taken.length
    sent := l.sent ++ successes l.queued outcomes
    running := false }

@[simp] theorem successes_nil (payloads : List Bytes) : successes payloads [] = payloads := by
  cases payloads <;> rfl

/-- What goes out is a head of what was tried. -/
theorem successes_prefix_of (payloads : List Bytes) (outcomes : List (Option IoError)) :
    successes payloads outcomes <+: payloads := by
  fun_induction successes payloads outcomes with
  | case1 => exact List.prefix_rfl
  | case2 => exact List.prefix_rfl
  | case3 payload payloads outcomes ih => exact (List.cons_prefix_cons).mpr ⟨rfl, ih⟩
  | case4 => exact List.nil_prefix

/-- When no write fails, everything that was queued goes out. -/
theorem flatten_sent_flush (l : WriteLoop ε) :
    (l.flush []).sent.flatten = l.sent.flatten ++ l.queued.flatten := by
  simp [flush]

variable [Tls.RecordEngine ε]

/-- Writes the oldest payload; the write fails for the given cause, or succeeds. After a failure the
rest is tried with the outcomes `later`. -/
def step (l : WriteLoop ε) (failure : Option IoError) (later : List (Option IoError)) : WriteLoop ε :=
  match l.running, l.queued with
  | true, payload :: _ =>
    let l := { l with tried := l.tried + 1 }
    match failure with
    | none =>
      { l with sent := l.sent ++ [payload], traffic := l.traffic.written payload.length }
    | some cause =>
      let session :=
        if l.session.isConnected then l.session.fire (.exception (.send cause)) else l.session
      { l with session := session.close.2 }.flush later
  | _, _ => l

/-- The loop ends when it sees that the session closes. -/
def stop (l : WriteLoop ε) (outcomes : List (Option IoError)) : WriteLoop ε :=
  if l.running then l.flush outcomes else l

end WriteLoop

end SessionEngine
