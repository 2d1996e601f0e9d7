import SessionEngine.Error

/-! The events of a session and the queue in which they wait for delivery. Connect and disconnect
are latched: only the first of each counts, and nothing is queued after the disconnect. The main
statements, `pending_push` and its companions, say for each operation what it adds at the end. -/

namespace SessionEngine

/-- Something that happened to a session and that a handler is told about. -/
inductive Event where
  | connect
  | receive (message : Bytes)
  | sent (message : Bytes)
  | idle
  | exception (error : Error)
  | disconnect
  deriving DecidableEq, Repr, Inhabited

def Event.callback : Event → Callback
  | .connect => .onConnect
  | .receive _ => .onReceive
  | .sent _ => .onSent
  | .idle => .onIdle
  | .exception _ => .onException
  | .disconnect => .onDisconnect

/-- The events that wait for delivery, oldest first, and the two latches. -/
structure EventQueue where
  pending : List Event
  connected : Bool
  disconnected : Bool
  deriving DecidableEq, Repr, Inhabited

namespace EventQueue

/-- Nothing waits, and no latch is set. -/
def empty : EventQueue := ⟨[], false, false⟩

/-- Queues an event, unless the disconnect was queued before. -/
def push (q : EventQueue) (e : Event) : EventQueue :=
  if q.disconnected then q else { q with pending := q.pending ++ [e] }

/-- Queues the connect event the first time; later calls have no effect. -/
def fireConnect (q : EventQueue) : EventQueue :=
  if q.connected then q else { q with connected := true }.push .connect

/-- Queues the disconnect event the first time; later calls have no effect. -/
def fireDisconnect (q : EventQueue) : EventQueue :=
  if q.disconnected then q
  else { q with disconnected := true, pending := q.pending ++ [.disconnect] }

/-- The oldest event and the queue without it. -/
def pop? (q : EventQueue) : Option (Event × EventQueue) :=
  match q.pending with
  | [] => none
  | e :: rest => some (e, { q with pending := rest })

theorem pending_push (q : EventQueue) (e : Event) :
    (q.push e).pending = q.pending ++ (if q.disconnected then [] else [e]) := by
  unfold push; split <;> simp [*]

theorem pending_fireConnect (q : EventQueue) :
    q.fireConnect.pending =
      q.pending ++ (if q.connected || q.disconnected then [] else [.connect]) := by
  unfold fireConnect
  split
  next h => simp [h]
  next h => simp [pending_push, h]

theorem pending_fireDisconnect (q : EventQueue) :
    q.fireDisconnect.pending = q.pending ++ (if q.disconnected then [] else [.disconnect]) := by
  unfold fireDisconnect; split <;> simp [*]

@[simp] theorem disconnected_push (q : EventQueue) (e : Event) :
    (q.push e).disconnected = q.disconnected := by
  unfold push; split <;> rfl

@[simp] theorem disconnected_fireDisconnect (q : EventQueue) :
    q.fireDisconnect.disconnected = true := by
  unfold fireDisconnect; split <;> simp_all

end EventQueue

end SessionEngine
