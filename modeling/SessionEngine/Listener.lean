import SessionEngine.Socket

/-! Listeners: an accept loop makes a session of every connection and puts it on the register, a task
of its own opens it and takes it off again when it sees that it has closed, and a close of the
listener closes what is on the register. The steps of all of them may come in any order; each is a
function that gives nothing where the step cannot be taken. The main statements are
`close_of_closed`, by which a second close changes nothing, and `start_of_unbound`, by which a
listener accepts at most once. -/

namespace SessionEngine

/-- How far the task that tends a guest has come. -/
inductive Tending where
  /-- The pool has no such task. -/
  | nobody
  /-- The pool has the task, and it has not begun. -/
  | queued
  /-- The session was opened, or failed to open. -/
  | opened
  /-- The task watches for the close of the session. -/
  | watching
  /-- The task took the session off the register. -/
  | over
  deriving DecidableEq, Repr, Inhabited

/-- A session that a listener accepted. -/
structure Guest (μ ε : Type) where
  delivery : Delivery μ ε
  /-- The local and the remote address of its connection. -/
  addresses : Option String × Option String
  tending : Tending := .nobody
  /-- How many of its two loops were given to the pool and have not begun. -/
  loops : Nat := 0

/-- Where the accept loop stands. Guests are known by their places. -/
inductive AcceptPhase where
  | notStarted
  /-- It waits for a connection and for the stop signal. -/
  | waiting
  /-- It has made a guest that is not on the register. -/
  | made (guest : Nat)
  /-- It has put a guest on the register that nobody tends. -/
  | registered (guest : Nat)
  | ended
  deriving DecidableEq, Repr, Inhabited

/-- How far the close of a listener has come. -/
inductive ClosePhase where
  | notBegun
  /-- A second close finds the first and does nothing. -/
  | flagged
  /-- The stop signal was raised. -/
  | signalled
  /-- The address is not bound any more, unless the accept loop holds it. -/
  | unbound
  /-- Of the guests that were on the register, some are still to be closed. -/
  | closing (left all : List Nat)
  /-- Some may still have events that were not delivered. -/
  | awaiting (left : List Nat)
  /-- The register is empty. -/
  | cleared
  /-- The pool is shut down. -/
  | over
  deriving DecidableEq, Repr, Inhabited

/-- A listener with everything that runs on its pool. -/
structure Listener (μ ε : Type) where
  settings : Settings
  splitter : Splitter
  handler : Option (Handler μ ε)
  /-- What a handler knows of a session at first. -/
  memory : μ
  /-- The address that was bound. -/
  address : String
  /-- Whether the bound address waits for the accept loop. -/
  bound : Bool := true
  pool : Workers
  traffic : Traffic := .zero
  stop : Signal := .quiet
  accepting : AcceptPhase := .notStarted
  closing : ClosePhase := .notBegun
  /-- The number of the first session. -/
  firstId : Nat
  guests : List (Guest μ ε) := []
  /-- The places of the guests that count as open. -/
  register : List Nat := []

namespace Listener

variable {ε : Type}

/-- The listener with a guest in another state. -/
def modify (l : Listener μ ε) (i : Nat) (f : Guest μ ε → Guest μ ε) : Listener μ ε :=
  { l with guests := l.guests.modify i f }

/-- The listener with the session of a guest in another state. -/
def modifySession (l : Listener μ ε) (i : Nat) (f : Session ε → Session ε) : Listener μ ε :=
  l.modify i fun g => { g with delivery := { g.delivery with session := f g.delivery.session } }

/-- The session of a guest. -/
def session? (l : Listener μ ε) (i : Nat) : Option (Session ε) :=
  (l.guests[i]?).map (·.delivery.session)

/-- The number of guests that count as open. -/
def count (l : Listener μ ε) : Nat := l.register.length

/-- A listener on an address that is bound, with a pool of its own. -/
def new (settings : Settings) (splitter : Splitter) (handler : Option (Handler μ ε)) (memory : μ)
    (address : String) (firstId : Nat) : Listener μ ε :=
  { settings, splitter, handler, memory, address, firstId
    pool := Workers.start settings.workers }

/-- The listener in a form for diagnostics. -/
def describe (l : Listener μ ε) : String :=
  s!"AsyncServerSocket \x7b local_addr: {l.address}, sessions: {l.count} \x7d"

/-! ### The accept loop -/

/-- Gives the accept loop to the pool; the loop takes the bound address with it. -/
def start (l : Listener μ ε) : Except Error Unit × Listener μ ε :=
  if !l.bound then (.error .closed, l)
  else if l.pool.stopped then (.error .closed, { l with bound := false })
  else (.ok (), { l with bound := false, stop := l.stop.watch, accepting := .waiting })

/-- A listener whose address is taken or given up does not start. -/
theorem start_of_unbound {l : Listener μ ε} (h : l.bound = false) : l.start = (.error .closed, l) := by
  simp [start, h]

/-- Once the listener has started, it does not start again. -/
theorem bound_start (l : Listener μ ε) : l.start.2.bound = false := by
  unfold start
  split
  next h => simpa using h
  · split <;> rfl

/-- The loop takes a connection and makes a session of it. -/
def accept? (l : Listener μ ε) (addresses : Option String × Option String) : Option (Listener μ ε) :=
  if l.accepting = .waiting ∧ l.pool.stopped = false then
    let session := Session.new (l.firstId + l.guests.length) l.settings.accepted l.splitter
    let delivery : Delivery μ ε :=
      { session, handler := l.handler, memory := l.memory, ownsPool := false }
    some { l with
      guests := l.guests ++ [{ delivery := delivery.start l.pool, addresses }]
      accepting := .made l.guests.length }
  else none

/-- The loop puts the guest it made on the register. -/
def register? (l : Listener μ ε) : Option (Listener μ ε) :=
  match l.accepting with
  | .made i => some { l with register := l.register ++ [i], accepting := .registered i }
  | _ => none

/-- The loop gives the task that tends the guest to the pool, which may take none. -/
def employ? (l : Listener μ ε) : Option (Listener μ ε) :=
  match l.accepting with
  | .registered i =>
    let l := { l with accepting := .waiting }
    some (if l.pool.stopped then l else l.modify i fun g => { g with tending := .queued })
  | _ => none

/-- The loop ends, because it sees the stop signal or because the pool ends. -/
def endAccepting? (l : Listener μ ε) : Option (Listener μ ε) :=
  if l.accepting = .waiting ∧ (l.stop.raised || l.pool.stopped) then
    some { l with accepting := .ended, stop := l.stop.unwatch }
  else none

/-! ### The tasks of a guest -/

/-- The guest in place `i`, if the pool still runs its tasks. -/
def running? (l : Listener μ ε) (i : Nat) : Option (Guest μ ε) :=
  if l.pool.stopped then none else l.guests[i]?

/-- One of the loops of a guest begins, and watches for the close. -/
def beginLoop? (l : Listener μ ε) (i : Nat) : Option (Listener μ ε) :=
  match (l.running? i).filter (0 < ·.loops) with
  | none => none
  | some _ =>
    some ((l.modify i fun g => { g with loops := g.loops - 1 }).modifySession i (·.watchClose))

/-- The tending task begins to watch for the close. -/
def watch? (l : Listener μ ε) (i : Nat) : Option (Listener μ ε) :=
  match (l.running? i).filter (·.tending == .opened) with
  | none => none
  | some _ =>
    some ((l.modify i fun g => { g with tending := .watching }).modifySession i (·.watchClose))

/-- The tending task sees that the session has closed, and takes it off the register. -/
def deregister? (l : Listener μ ε) (i : Nat) : Option (Listener μ ε) :=
  match (l.running? i).filter fun g =>
      g.tending == .watching && g.delivery.session.closeSignal.raised with
  | none => none
  | some _ =>
    some { (l.modify i fun g => { g with tending := .over }) with
      register := l.register.filter (· != i) }

variable [Tls.RecordEngine ε]

/-- The tending task opens the session; with success, both loops are given to the pool. It never comes to an
end with a handshake that does not. -/
def open? (l : Listener μ ε) (i now : Nat) (o : Opening ε) : Option (Listener μ ε) :=
  match (l.running? i).filter (·.tending == .queued) with
  | none => none
  | some g =>
    match { o with connection := .ok g.addresses }.run now g.delivery.session l.traffic with
    | (none, _) => none
    | (some result, session, traffic) =>
      let loops := if result.toBool then 2 else 0
      some ({ l with traffic }.modify i fun g =>
        { g with delivery := { g.delivery with session }, tending := .opened, loops })

/-- The oldest event of a guest is delivered. -/
def deliver? (l : Listener μ ε) (i now : Nat) : Option (Listener μ ε) :=
  match l.guests[i]? with
  | none => none
  | some g =>
    match g.delivery.step? now l.pool with
    | none => none
    | some (delivery, pool) => some ({ l with pool }.modify i fun g => { g with delivery })

def closeGuest (l : Listener μ ε) (i : Nat) : Listener μ ε := l.modifySession i fun s => s.close.2

/-! ### Closing -/

/-- Delivers what is queued for a guest, at most `fuel` events. -/
def settleGuest (l : Listener μ ε) (i now : Nat) : (fuel : Nat) → Listener μ ε
  | 0 => l
  | fuel + 1 =>
    match l.deliver? i now with
    | none => l
    | some l => l.settleGuest i now fuel

/-- The next step of a close; `fuel` bounds the events of one guest that are waited for. -/
def closeStep (l : Listener μ ε) (now fuel : Nat) : Listener μ ε :=
  match l.closing with
  | .notBegun => { l with closing := .flagged }
  | .flagged => { l with closing := .signalled, stop := l.stop.raise }
  | .signalled => { l with closing := .unbound, bound := false }
  | .unbound => { l with closing := .closing l.register l.register }
  | .closing (i :: left) all => { l.closeGuest i with closing := .closing left all }
  | .closing [] all => { l with closing := .awaiting all }
  | .awaiting (i :: left) => { l.settleGuest i now fuel with closing := .awaiting left }
  | .awaiting [] => { l with closing := .cleared, register := [] }
  | .cleared => { l with closing := .over, pool := l.pool.shutdown }
  | .over => l

/-- The steps of a close of a listener with `n` guests on its register. -/
def closeLength (n : Nat) : Nat := 2 * n + 8

/-- Closes the listener, with nobody else taking a step meanwhile. -/
def close (l : Listener μ ε) (now fuel : Nat) : Listener μ ε :=
  if l.closing = .notBegun then
    Nat.repeat (closeStep · now fuel) (closeLength l.register.length) l
  else l

/-- A second close changes nothing. -/
theorem close_of_closed {l : Listener μ ε} (h : l.closing ≠ .notBegun) (now fuel : Nat) :
    l.close now fuel = l := by
  simp [close, h]

end Listener

end SessionEngine
