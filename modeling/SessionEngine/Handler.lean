import SessionEngine.Session

/-! Handlers: what a program does about the events of a session. A callback is a script, a finite
tree of the actions it takes on the session, each continued by what the action gives; it ends with a
reply, without one, or in a panic. The memory of a handler lives on from one callback to the next. -/

namespace SessionEngine

/-- What a callback does, as a tree of actions on the session. -/
inductive Script (μ ε : Type) where
  /-- Returns, with a reply or without one. -/
  | done (memory : μ) (reply : Option Bytes)
  /-- Breaks off. -/
  | panic (memory : μ)
  | send (data : Bytes) (next : Except Error Unit → Script μ ε)
  | close (next : Bool → Script μ ε)
  | attach (ping pong : Bytes) (next : Option Nat → Script μ ε)
  | beat (slot : Nat) (next : Bool → Script μ ε)
  /-- Looks at the session. -/
  | inspect (next : Session ε → Script μ ε)

/-- How a callback ended. -/
inductive Ending (μ : Type) where
  | returned (memory : μ) (reply : Option Bytes)
  | panicked (memory : μ)

namespace Script

variable {ε : Type}

def run [Tls.RecordEngine ε] (now : Nat) : Script μ ε → Session ε → Ending μ × Session ε
  | .done memory reply, s => (.returned memory reply, s)
  | .panic memory, s => (.panicked memory, s)
  | .send data next, s => let (result, s) := s.send data; (next result).run now s
  | .close next, s => let (result, s) := s.close; (next result).run now s
  | .attach ping pong next, s =>
    let (result, s) := s.attach ping pong s.beatRole
    (next result).run now s
  | .beat slot next, s => let (result, s) := s.beat now slot; (next result).run now s
  | .inspect next, s => (next s).run now s

/-- A callback that does nothing. -/
def nothing (memory : μ) : Script μ ε := .done memory none

end Script

/-- A handler with memory of type `μ`: for each event the script of its callback. -/
structure Handler (μ ε : Type) where
  respond : μ → Event → Script μ ε

/-- Whether the reply of a callback for the event is sent. -/
def Event.takesReply : Event → Bool
  | .connect | .receive _ => true
  | .sent _ | .idle | .exception _ | .disconnect => false

namespace Handler

variable {ε : Type}

/-- What a handler does about an event it says nothing about: it closes the session after an
exception, and does nothing else. -/
def standard (memory : μ) : Event → Script μ ε
  | .exception _ => .close fun _ => .nothing memory
  | _ => .nothing memory

variable [Tls.RecordEngine ε]

/-- Sends the reply of a callback. A session that is closed takes no reply, and nobody is told; any
other failure is an exception. -/
def sendReply (reply : Bytes) (s : Session ε) : Session ε :=
  match s.send reply with
  | (.ok (), s) => s
  | (.error .closed, s) => s
  | (.error e, s) => s.fire (.exception e)

/-- Tells the handler about an event. A callback that panics is an exception of its own; where that
callback was the one for exceptions, nobody is left to decide, and the session is closed. -/
def deliver (h : Handler μ ε) (now : Nat) (memory : μ) (e : Event) (s : Session ε) : μ × Session ε :=
  match (h.respond memory e).run now s with
  | (.returned memory reply, s) =>
    (memory, match reply with
      | some data => if e.takesReply then sendReply data s else s
      | none => s)
  | (.panicked memory, s) =>
    (memory, if e.callback = .onException then s.close.2
      else s.fire (.exception (.handlerPanic e.callback)))

end Handler

end SessionEngine
