import SessionEngine.Proofs.Event.Accepted
import SessionEngine.Proofs.Session.Kept

/-! What is done to a session, one whole operation after the other: by its owner, by the loops of its
socket, by reads, and by the callbacks of its handler. The main statement is `events_perform`: the
queue of events changes by the events that `fires` lists for the operation, and by nothing else. -/

namespace SessionEngine

variable {ε : Type}

/-- An operation on a session. -/
inductive Deed where
  | fire (e : Event)
  | send (data : Bytes)
  | feed (data : Bytes)
  | take
  | dispatch
  /-- A read that has begun or was woken looks for a message, and then for the end. -/
  | look
  /-- A read whose window has passed looks for a message once more. -/
  | lastLook
  | attach (ping pong : Bytes) (role : BeatRole)
  | beat (slot : Nat)
  | establish
  | close
  | installWriter
  | dropWriter
  | setMode (mode : WriteMode)

/-- Bytes that leave a buffer together. -/
inductive Segment where
  | message (data : Bytes)
  | token (data : Bytes)
  deriving DecidableEq, Repr

namespace Segment

def bytes : Segment → Bytes
  | .message data => data
  | .token data => data

def message? : Segment → Option Bytes
  | .message data => some data
  | .token _ => none

end Segment

/-- The message that an event hands over. -/
def Event.message? : Event → Option Bytes
  | .receive message => some message
  | _ => none

namespace Session

def heartbeat? (s : Session ε) : Option Heartbeat :=
  s.heartbeatSlot?.bind fun slot => s.heartbeats[slot]?

/-- The tokens that stripping takes off the buffer. -/
def tokens (s : Session ε) : List Segment :=
  match s.heartbeat? with
  | none => []
  | some h => (h.strip s.buffer.contents).1.map fun token => .token (h.bytes token)

/-- The tokens that come to the head of the buffer when `message` is taken off it. -/
def tokensBehind (s : Session ε) (message : Bytes) : List Segment :=
  (s.withContents (s.buffer.contents.drop message.length)).tokens

theorem messages_tokens (s : Session ε) : s.tokens.filterMap Segment.message? = [] := by
  unfold tokens
  split
  · rfl
  · simp [List.filterMap_map, Function.comp_def, Segment.message?]

theorem events_fire (s : Session ε) (e : Event) : (s.fire e).events = s.events.fire e := by
  cases e <;> rfl

theorem events_attach (s : Session ε) (ping pong : Bytes) (role : BeatRole) :
    (s.attach ping pong role).2.events = s.events := by
  rcases attach_cases s ping pong role with h | ⟨-, attributes, h⟩ <;> rw [h]

theorem events_advance (s : Session ε) (source target : Stage) :
    (s.advance source target).2.events = s.events := by
  unfold advance; split <;> rfl

theorem stage_attach (s : Session ε) (ping pong : Bytes) (role : BeatRole) :
    (s.attach ping pong role).2.stage = s.stage := by
  rcases attach_cases s ping pong role with h | ⟨-, attributes, h⟩ <;> rw [h]

variable [Tls.RecordEngine ε]

/-- What a dispatch takes off the buffer, and the complaint that it ends with. -/
def haul (s : Session ε) (now : Nat) : List Segment × Option Error :=
  match h : s.takeMessage now with
  | (.ok (some message), s') =>
    have : (s'.fire (.receive message)).buffer.length < s.buffer.length := by
      simpa using length_lt_of_takeMessage h
    let (segments, complaint) := (s'.fire (.receive message)).haul now
    (.message message :: s.tokensBehind message ++ segments, complaint)
  | (.ok none, _) => ([], none)
  | (.error e, _) => ([], some e)
  termination_by s.buffer.length

/-- The events that a dispatch fires: each message, and then the complaint. -/
def offers (s : Session ε) (now : Nat) : List Event :=
  ((s.haul now).1.filterMap Segment.message?).map .receive ++ (s.haul now).2.toList.map .exception

def perform (s : Session ε) (now : Nat) : Deed → Session ε
  | .fire e => s.fire e
  | .send data => (s.send data).2
  | .feed data => (s.feed now data).2
  | .take => (s.takeMessage now).2
  | .dispatch => (s.dispatch now).2
  | .look => (s.look now).2
  | .lastLook => (s.lastLook now).2
  | .attach ping pong role => (s.attach ping pong role).2
  | .beat slot => (s.beat now slot).2
  | .establish => (s.advance .connecting .connected).2
  | .close => s.close.2
  | .installWriter => { s with writer := s.writer.install }
  | .dropWriter => { s with writer := s.writer.drop }
  | .setMode mode => { s with writer := { s.writer with mode } }

/-- The events that an operation at `now` fires, in order. -/
def fires (s : Session ε) (now : Nat) : Deed → List Event
  | .fire e => [e]
  | .send data => if (s.send data).1 = .ok () then [.sent data] else []
  | .dispatch => if s.settings.handled then s.offers now else []
  | .close => if s.stage.isOpen then [.disconnect] else []
  | .feed _ | .take | .look | .lastLook | .attach .. | .beat _ | .establish | .installWriter
  | .dropWriter | .setMode _ => []

/-! ### What a dispatch takes -/

theorem haul_of_message {s s' : Session ε} {now : Nat} {message : Bytes}
    (h : s.takeMessage now = (.ok (some message), s')) :
    s.haul now = (.message message :: s.tokensBehind message ++
      ((s'.fire (.receive message)).haul now).1, ((s'.fire (.receive message)).haul now).2) := by
  rw [haul]
  split
  next m t heq =>
    rw [h] at heq
    cases heq
    rfl
  next heq => rw [h] at heq; cases heq
  next heq => rw [h] at heq; cases heq

theorem haul_of_none {s s' : Session ε} {now : Nat} (h : s.takeMessage now = (.ok none, s')) :
    s.haul now = ([], none) := by
  rw [haul]
  split
  next heq => rw [h] at heq; cases heq
  next => rfl
  next heq => rw [h] at heq; cases heq

theorem haul_of_error {s s' : Session ε} {now : Nat} {e : Error}
    (h : s.takeMessage now = (.error e, s')) : s.haul now = ([], some e) := by
  rw [haul]
  split
  next heq => rw [h] at heq; cases heq
  next heq => rw [h] at heq; cases heq
  next heq => rw [h] at heq; cases heq; rfl

theorem offers_of_message {s s' : Session ε} {now : Nat} {message : Bytes}
    (h : s.takeMessage now = (.ok (some message), s')) :
    s.offers now = .receive message :: (s'.fire (.receive message)).offers now := by
  simp only [offers, haul_of_message h, List.cons_append, List.filterMap_cons, Segment.message?,
    List.filterMap_append, tokensBehind, messages_tokens, List.nil_append, List.map_cons]

theorem offers_of_none {s s' : Session ε} {now : Nat} (h : s.takeMessage now = (.ok none, s')) :
    s.offers now = [] := by
  simp [offers, haul_of_none h]

theorem offers_of_error {s s' : Session ε} {now : Nat} {e : Error}
    (h : s.takeMessage now = (.error e, s')) : s.offers now = [.exception e] := by
  simp [offers, haul_of_error h]

/-! ### The queue -/

theorem events_send (s : Session ε) (data : Bytes) :
    (s.send data).2.events =
      (if (s.send data).1 = .ok () then [.sent data] else []).foldl EventQueue.fire s.events := by
  have hkept := (kept_transmit s data).events
  rcases send_cases s data with h | ⟨e, h⟩
  · rw [h, events_fire]
    exact congrArg (EventQueue.fire · _) hkept
  · rw [h]
    exact hkept

theorem events_dispatchAll (s : Session ε) (now : Nat) :
    (s.dispatchAll now).2.events = (s.offers now).foldl EventQueue.fire s.events := by
  have hkept := (kept_takeMessage s now).events
  fun_induction dispatchAll s now with
  | case1 s message s' h _ n t hrest ih =>
    rw [h] at hkept
    rw [offers_of_message h, List.foldl_cons]
    rw [hrest] at ih
    have hfire : (s'.fire (.receive message)).events = s.events.fire (.receive message) := by
      rw [events_fire]
      exact congrArg (EventQueue.fire · _) hkept
    rw [← hfire]
    exact ih (kept_takeMessage _ now).events
  | case2 s s' h =>
    rw [h] at hkept
    rw [offers_of_none h]
    exact hkept
  | case3 s e s' h =>
    rw [h] at hkept
    rw [offers_of_error h, events_fire]
    exact congrArg (EventQueue.fire · _) hkept

theorem events_dispatch (s : Session ε) (now : Nat) :
    (s.dispatch now).2.events =
      (if s.settings.handled then s.offers now else []).foldl EventQueue.fire s.events := by
  unfold dispatch
  split
  · exact events_dispatchAll s now
  · rfl

theorem events_close (s : Session ε) :
    s.close.2.events =
      (if s.stage.isOpen then [.disconnect] else []).foldl EventQueue.fire s.events := by
  rcases close_cases s with ⟨hclosed, h⟩ | ⟨hopen, writer, tls, -, h⟩
  · rw [h, hclosed]
    rfl
  · rw [h, hopen]
    rfl

/-- Only establishing and closing move a session to another stage. -/
theorem stage_perform (s : Session ε) (now : Nat) (d : Deed) :
    (s.perform now d).stage = s.stage ∨ d = .establish ∨ d = .close := by
  cases d with
  | send data => exact .inl (stays_send s data).stage
  | feed data => exact .inl (kept_feed s now data).stage
  | take => exact .inl (kept_takeMessage s now).stage
  | dispatch => exact .inl (stays_dispatch s now).stage
  | look => exact .inl (kept_look s now).stage
  | lastLook => exact .inl (kept_lastLook s now).stage
  | attach ping pong role => exact .inl (stage_attach s ping pong role)
  | beat slot => exact .inl (kept_beat s now slot).stage
  | establish => exact .inr (.inl rfl)
  | close => exact .inr (.inr rfl)
  | fire e => exact .inl rfl
  | installWriter => exact .inl rfl
  | dropWriter => exact .inl rfl
  | setMode mode => exact .inl rfl

theorem grows_perform (s : Session ε) (now : Nat) (d : Deed) : Grows s (s.perform now d) := by
  cases d with
  | fire e => exact (stays_fire s e).grows
  | send data => exact (stays_send s data).grows
  | feed data => exact (kept_feed s now data).grows
  | take => exact (kept_takeMessage s now).grows
  | dispatch => exact (stays_dispatch s now).grows
  | look => exact (kept_look s now).grows
  | lastLook => exact (kept_lastLook s now).grows
  | attach ping pong role => exact grows_attach s ping pong role
  | beat slot => exact (kept_beat s now slot).grows
  | establish => exact grows_advance s _ _
  | close => exact grows_close s
  | installWriter => exact (kept_writer s _).grows
  | dropWriter => exact (kept_writer s _).grows
  | setMode mode => exact (kept_writer s _).grows

/-- An operation changes the queue by the events that it fires. -/
theorem events_perform (s : Session ε) (now : Nat) (d : Deed) :
    (s.perform now d).events = (s.fires now d).foldl EventQueue.fire s.events := by
  cases d with
  | fire e => exact events_fire s e
  | send data => exact events_send s data
  | feed data => exact (kept_feed s now data).events
  | take => exact (kept_takeMessage s now).events
  | dispatch => exact events_dispatch s now
  | look => exact (kept_look s now).events
  | lastLook => exact (kept_lastLook s now).events
  | attach ping pong role => exact events_attach s ping pong role
  | beat slot => exact (kept_beat s now slot).events
  | establish => exact events_advance s _ _
  | close => exact events_close s
  | installWriter => rfl
  | dropWriter => rfl
  | setMode mode => rfl

end Session

end SessionEngine
