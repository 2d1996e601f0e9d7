import SessionEngine.Delivery
import SessionEngine.Proofs.Session.Deed
import Mathlib.Logic.Function.Iterate

/-! The course of a session's life: operations of its owner and its loops, and between any two of
them the dispatcher, which calls the handler for one event after the other. A callback runs action by
action, so others may act on the session while it is at work. By `replays_run` the handler is told of
what was fired, as the queue lets it through; `exists_run_of_step?` shows that a delivery in one go is
one such course: the handler is told, and then acts until it is done. -/

namespace SessionEngine

variable {ε : Type}

/-- Where the dispatcher of a session stands. -/
inductive Dispatcher (μ ε : Type) where
  | waiting (memory : μ)
  /-- The callback for an event has this left to do. -/
  | calling (e : Event) (rest : Script μ ε)
  | over (memory : μ)

/-- The dispatcher after the callback for an event: the disconnect is the last one. -/
def Dispatcher.after (e : Event) (memory : μ) : Dispatcher μ ε :=
  if e = .disconnect then .over memory else .waiting memory

theorem Dispatcher.after_ne_calling {e e' : Event} {memory : μ} {rest : Script μ ε} :
    Dispatcher.after e memory ≠ .calling e' rest := by
  unfold after
  split <;> exact nofun

theorem Dispatcher.eq_disconnect_of_after {e : Event} {memory memory' : μ}
    (h : (after e memory : Dispatcher μ ε) = .over memory') : e = .disconnect := by
  unfold after at h
  split at h
  next hlast => exact hlast
  · cases h

/-- A session, its dispatcher, every event that was fired, and every event that the handler was told
of, oldest first. -/
structure Course (μ ε : Type) where
  session : Session ε
  dispatcher : Dispatcher μ ε
  fired : List Event := []
  told : List Event := []

inductive Move where
  | deed (d : Deed)
  /-- The dispatcher takes the oldest event and calls the handler. -/
  | tell
  /-- The callback that is at work takes one action, or ends. -/
  | act

def Move.deed? : Move → Option Deed
  | .deed d => some d
  | .tell | .act => none

namespace Course

/-- The dispatcher takes the oldest event and calls the handler. -/
def tell (h : Handler μ ε) (c : Course μ ε) : Course μ ε :=
  match c.dispatcher, c.session.events.pop? with
  | .waiting memory, some (e, events) =>
    { c with
      session := { c.session with events }
      dispatcher := .calling e (h.respond memory e)
      told := c.told ++ [e] }
  | _, _ => c

/-- The dispatcher of a session has begun, and nothing was fired yet. -/
def start (s : Session ε) (memory : μ) : Course μ ε := { session := s, dispatcher := .waiting memory }

/-- With what the handler was told of put back, the queue is what the firings have made of `q`. -/
def Replays (q : EventQueue) (c : Course μ ε) : Prop :=
  c.fired.foldl EventQueue.fire q = c.session.events.behind c.told

/-- The events that were ever queued: those that the handler was told of, and those that wait. -/
def queued (c : Course μ ε) : List Event := c.told ++ c.session.events.pending

theorem Replays.queued {q : EventQueue} {c : Course μ ε} (h : c.Replays q) :
    c.queued = (c.fired.foldl EventQueue.fire q).pending :=
  congrArg EventQueue.pending h.symm

theorem Replays.tell {q : EventQueue} {c : Course μ ε} (hc : c.Replays q) (h : Handler μ ε) :
    (c.tell h).Replays q := by
  unfold Course.tell
  split
  next memory e events _ hpop => exact hc.trans (EventQueue.behind_of_pop? hpop c.told)
  · exact hc

end Course

variable [Tls.RecordEngine ε]

namespace Script

/-- What becomes of a reply: it is sent, and a failure other than that of a closed session is an
exception. -/
def replying (s : Session ε) (data : Bytes) : List Deed :=
  match (s.send data).1 with
  | .ok () => [.send data]
  | .error .closed => [.send data]
  | .error e => [.send data, .fire (.exception e)]

/-- The operations that the next action of a callback for an event comes to. -/
def deeds (e : Event) (s : Session ε) : Script μ ε → List Deed
  | .done _ none => []
  | .done _ (some data) => if e.takesReply then replying s data else []
  | .panic _ =>
    [if e.callback = .onException then .close else .fire (.exception (.handlerPanic e.callback))]
  | .send data _ => [.send data]
  | .close _ => [.close]
  | .attach ping pong _ => [.attach ping pong s.beatRole]
  | .beat slot _ => [.beat slot]
  | .inspect _ => []

def following (now : Nat) (e : Event) (s : Session ε) : Script μ ε → Dispatcher μ ε
  | .done memory _ => .after e memory
  | .panic memory => .after e memory
  | .send data next => .calling e (next (s.send data).1)
  | .close next => .calling e (next s.close.1)
  | .attach ping pong next => .calling e (next (s.attach ping pong s.beatRole).1)
  | .beat slot next => .calling e (next (s.beat now slot).1)
  | .inspect next => .calling e (next s)

end Script

/-- What a callback may come to: it acts on its session, or an exception is fired because it panics or
because its reply is not sent. -/
def Deed.OfCallback (s : Session ε) : Deed → Prop
  | .send _ | .close | .attach .. | .beat _ => True
  | .fire (.exception error) =>
    (∃ callback, error = .handlerPanic callback) ∨ ∃ data, (s.send data).1 = .error error
  | _ => False

theorem Script.ofCallback_deeds {e : Event} {s : Session ε} {script : Script μ ε} {d : Deed}
    (hd : d ∈ script.deeds e s) : d.OfCallback s := by
  cases script with
  | done memory reply =>
    cases reply with
    | none => cases hd
    | some data =>
      simp only [deeds, replying] at hd
      split at hd
      · split at hd
        · obtain rfl := List.mem_singleton.mp hd
          trivial
        · obtain rfl := List.mem_singleton.mp hd
          trivial
        next error _ herror =>
          rcases List.mem_cons.mp hd with rfl | hd
          · trivial
          · obtain rfl := List.mem_singleton.mp hd
            exact .inr ⟨data, herror⟩
      · cases hd
  | panic memory =>
    obtain rfl := List.mem_singleton.mp hd
    split
    · trivial
    · exact .inl ⟨_, rfl⟩
  | send data next | close next | attach ping pong next | beat slot next =>
    obtain rfl := List.mem_singleton.mp hd
    trivial
  | inspect next => cases hd

namespace Course

def perform (c : Course μ ε) (now : Nat) (d : Deed) : Course μ ε :=
  { c with session := c.session.perform now d, fired := c.fired ++ c.session.fires now d }

def performAll (c : Course μ ε) (now : Nat) (deeds : List Deed) : Course μ ε :=
  deeds.foldl (fun c d => c.perform now d) c

/-- The callback that is at work takes one action, or ends. -/
def act (now : Nat) (c : Course μ ε) : Course μ ε :=
  match c.dispatcher with
  | .calling e script =>
    { c.performAll now (script.deeds e c.session) with
      dispatcher := script.following now e c.session }
  | _ => c

/-- The course after a move at `now`; a move that is not possible changes nothing. -/
def move (h : Handler μ ε) (c : Course μ ε) (now : Nat) : Move → Course μ ε
  | .deed d => c.perform now d
  | .tell => c.tell h
  | .act => c.act now

def run (h : Handler μ ε) (moves : List (Nat × Move)) (c : Course μ ε) : Course μ ε :=
  moves.foldl (fun c m => c.move h m.1 m.2) c

@[simp] theorem run_cons (h : Handler μ ε) (m : Nat × Move) (moves : List (Nat × Move)) (c : Course μ ε) :
    c.run h (m :: moves) = (c.move h m.1 m.2).run h moves := rfl

@[simp] theorem told_performAll (c : Course μ ε) (now : Nat) (deeds : List Deed) :
    (c.performAll now deeds).told = c.told := by
  induction deeds generalizing c with
  | nil => rfl
  | cons d deeds ih => exact ih (c.perform now d)

theorem session_performAll (c : Course μ ε) (now : Nat) (deeds : List Deed) :
    (c.performAll now deeds).session = deeds.foldl (fun s d => s.perform now d) c.session := by
  induction deeds generalizing c with
  | nil => rfl
  | cons d deeds ih => exact ih (c.perform now d)

theorem act_of_calling {c : Course μ ε} {e : Event} {script : Script μ ε}
    (hc : c.dispatcher = .calling e script) (now : Nat) :
    c.act now = { c.performAll now (script.deeds e c.session) with
      dispatcher := script.following now e c.session } := by
  simp [act, hc]

theorem told_act (c : Course μ ε) (now : Nat) : (c.act now).told = c.told := by
  unfold act
  split
  next e script _ => exact told_performAll c now (script.deeds e c.session)
  · rfl

/-! ### The queue over a course -/

theorem Replays.perform {q : EventQueue} {c : Course μ ε} (h : c.Replays q) (now : Nat) (d : Deed) :
    (c.perform now d).Replays q := by
  unfold Replays Course.perform
  rw [List.foldl_append, h, Session.events_perform, EventQueue.foldl_fire_behind]

theorem Replays.performAll {q : EventQueue} {c : Course μ ε} (h : c.Replays q) (now : Nat)
    (deeds : List Deed) : (c.performAll now deeds).Replays q := by
  induction deeds generalizing c with
  | nil => exact h
  | cons d deeds ih => exact ih (h.perform now d)

theorem Replays.act {q : EventQueue} {c : Course μ ε} (h : c.Replays q) (now : Nat) :
    (c.act now).Replays q := by
  unfold Course.act
  split
  next e script _ => exact h.performAll now (script.deeds e c.session)
  · exact h

theorem Replays.move {q : EventQueue} {c : Course μ ε} (hc : c.Replays q) (h : Handler μ ε) (now : Nat)
    (m : Move) : (c.move h now m).Replays q := by
  cases m with
  | deed d => exact hc.perform now d
  | tell => exact hc.tell h
  | act => exact hc.act now

theorem Replays.run {q : EventQueue} {c : Course μ ε} (hc : c.Replays q) (h : Handler μ ε)
    (moves : List (Nat × Move)) : (c.run h moves).Replays q := by
  induction moves generalizing c with
  | nil => exact hc
  | cons m moves ih => exact ih (hc.move h m.1 m.2)

/-- No event is lost on its way from a firing to the handler, and none comes in between. -/
theorem replays_run (h : Handler μ ε) (s : Session ε) (memory : μ) (moves : List (Nat × Move)) :
    ((start s memory).run h moves).Replays s.events := by
  have hstart : (start s memory).Replays s.events := rfl
  exact hstart.run h moves

/-! ### Deliveries in one go -/

/-- What a delivery makes of the end of a callback. -/
def conclude (e : Event) : Ending μ × Session ε → μ × Session ε
  | (.returned memory reply, s) =>
    (memory, match reply with
      | some data => if e.takesReply then Handler.sendReply data s else s
      | none => s)
  | (.panicked memory, s) =>
    (memory, if e.callback = .onException then s.close.2
      else s.fire (.exception (.handlerPanic e.callback)))

theorem deliver_eq_conclude (h : Handler μ ε) (now : Nat) (memory : μ) (e : Event) (s : Session ε) :
    h.deliver now memory e s = conclude e ((h.respond memory e).run now s) := by
  unfold Handler.deliver conclude
  rcases (h.respond memory e).run now s with ⟨_ | _, _⟩ <;> rfl

theorem foldl_replying (now : Nat) (s : Session ε) (data : Bytes) :
    (Script.replying s data).foldl (fun s d => s.perform now d) s = Handler.sendReply data s := by
  rw [Script.replying, Handler.sendReply]
  rcases hsend : s.send data with ⟨_ | e, s'⟩
  next e => cases e <;> simp [Session.perform, hsend]
  next => simp [Session.perform, hsend]

/-- Acting on, the callback for an event ends with the given memory and session. -/
def Ends (now : Nat) (e : Event) (result : μ × Session ε) (c : Course μ ε) : Prop :=
  ∃ n, ((act now)^[n] c).session = result.2 ∧ ((act now)^[n] c).dispatcher = .after e result.1

theorem Ends.of_act {now : Nat} {e : Event} {script : Script μ ε} {result : μ × Session ε} {c : Course μ ε}
    (hc : c.dispatcher = .calling e script)
    (h : ∀ c' : Course μ ε, c'.dispatcher = script.following now e c.session →
      c'.session = (script.deeds e c.session).foldl (fun s d => s.perform now d) c.session →
      Ends now e result c') : Ends now e result c := by
  have hact := act_of_calling hc now
  obtain ⟨n, hsession, hdispatcher⟩ := h (c.act now) (by rw [hact])
    (by rw [hact]; exact session_performAll c now _)
  -- One action more than the rest of the callback takes.
  exact ⟨n + 1, hsession, hdispatcher⟩

/-- A callback that runs in one go is one that acts until it is done. -/
theorem ends_script (now : Nat) (e : Event) (script : Script μ ε) {c : Course μ ε}
    (hc : c.dispatcher = .calling e script) :
    Ends now e (conclude e (script.run now c.session)) c := by
  induction script generalizing c with
  | done memory reply =>
    refine .of_act hc fun c' hdispatcher hsession => ⟨0, hsession.trans ?_, hdispatcher⟩
    cases reply with
    | none => rfl
    | some data =>
      simp only [Script.deeds, conclude, Script.run]
      split
      · exact foldl_replying now c.session data
      · rfl
  | panic memory =>
    refine .of_act hc fun c' hdispatcher hsession => ⟨0, hsession.trans ?_, hdispatcher⟩
    simp only [Script.deeds, conclude, Script.run]
    split <;> rfl
  | send data next ih | close next ih | attach ping pong next ih | beat slot next ih
  | inspect next ih =>
    refine .of_act hc fun c' hdispatcher hsession => ?_
    have hnext := ih _ hdispatcher
    rw [hsession] at hnext
    exact hnext

/-- The course stands where a delivery stands. -/
structure Shows (c : Course μ ε) (d : Delivery μ ε) : Prop where
  session : c.session = d.session
  dispatcher : c.dispatcher = if d.phase = .running then .waiting d.memory else .over d.memory

theorem run_replicate_act (h : Handler μ ε) (now n : Nat) (c : Course μ ε) :
    c.run h (List.replicate n (now, .act)) = (act now)^[n] c := by
  induction n generalizing c with
  | zero => rfl
  | succ n ih => exact ih (c.act now)

/-- A delivery in one go is a course: the handler is told of the event, and then acts until it is
done. -/
theorem exists_run_of_step? {h : Handler μ ε} {d d' : Delivery μ ε} {pool pool' : Workers} {now : Nat}
    {c : Course μ ε} (hc : c.Shows d) (hd : d.handler = some h)
    (hstep : d.step? now pool = some (d', pool')) :
    ∃ n, (c.run h ((now, .tell) :: List.replicate n (now, .act))).Shows d' := by
  unfold Delivery.step? at hstep
  split at hstep
  · cases hstep
  next hready =>
    have hrunning : d.phase = .running := by
      by_contra hphase
      exact hready (.inl hphase)
    split at hstep
    · cases hstep
    next e events hpop =>
      have htell : c.tell h = { c with
          session := { c.session with events }
          dispatcher := .calling e (h.respond d.memory e)
          told := c.told ++ [e] } := by
        simp [tell, hc.dispatcher, hrunning, hc.session, hpop]
      obtain ⟨n, hsession, hdispatcher⟩ := ends_script now e (h.respond d.memory e) (c := c.tell h)
        (by rw [htell])
      refine ⟨n, ?_⟩
      rw [run_cons, run_replicate_act]
      rw [show (c.tell h).session = { d.session with events } by rw [htell, ← hc.session],
        ← deliver_eq_conclude] at hsession hdispatcher
      simp only [hd] at hstep
      split at hstep <;> obtain ⟨rfl, -⟩ := Prod.mk.inj (Option.some.inj hstep)
      next hlast => exact ⟨hsession, hdispatcher.trans (by simp [Dispatcher.after, hlast])⟩
      next hlast => exact ⟨hsession, hdispatcher.trans (by simp [Dispatcher.after, hlast, hrunning])⟩

end Course

/-- Where nobody listens, events are taken and forgotten. -/
def Handler.deaf : Handler μ ε := ⟨fun memory _ => .nothing memory⟩

namespace Delivery

variable {d d' : Delivery μ ε} {now : Nat} {pool pool' : Workers}

/-- A delivery that goes on runs on a pool that runs, and is over behind the disconnect, with the pool if
that belongs to the session. -/
theorem step?_cases (h : d.step? now pool = some (d', pool')) :
    d.phase = .running ∧ pool.stopped = false ∧ d'.handler = d.handler ∧ d'.ownsPool = d.ownsPool ∧
      (d'.phase = .finished ∧ pool' = d.shutdown pool ∨ d'.phase = .running ∧ pool' = pool) := by
  unfold step? at h
  split at h
  · cases h
  next hready =>
    rw [not_or, not_not] at hready
    obtain ⟨hrunning, hpool⟩ := hready
    refine ⟨hrunning, Bool.eq_false_iff.mpr hpool, ?_⟩
    split at h
    · cases h
    · cases hhandler : d.handler <;> rw [hhandler] at h <;> dsimp only at h <;> split at h <;>
        obtain ⟨rfl, rfl⟩ := Prod.mk.inj (Option.some.inj h)
      · exact ⟨rfl, rfl, .inl ⟨rfl, rfl⟩⟩
      · exact ⟨rfl, rfl, .inr ⟨hrunning, rfl⟩⟩
      · exact ⟨rfl, rfl, .inl ⟨rfl, rfl⟩⟩
      · exact ⟨rfl, rfl, .inr ⟨hrunning, rfl⟩⟩

/-- A delivery to nobody is one to a handler that does nothing. -/
theorem step?_deaf (h : d.step? now pool = some (d', pool')) :
    ({ d with handler := some (d.handler.getD .deaf) } : Delivery μ ε).step? now pool =
      some ({ d' with handler := some (d.handler.getD .deaf) }, pool') := by
  unfold step? at h ⊢
  split at h
  · cases h
  next hready =>
    rw [if_neg hready]
    split at h
    · cases h
    next e events hpop =>
      simp only [hpop]
      cases hhandler : d.handler <;> rw [hhandler] at h <;> dsimp only at h <;> split at h <;>
        obtain ⟨rfl, rfl⟩ := Prod.mk.inj (Option.some.inj h)
      next hlast => exact if_pos hlast
      next hlast => exact if_neg hlast
      next hlast => exact if_pos hlast
      next hlast => exact if_neg hlast

/-- Whoever is told, a delivery is a course of the session. -/
theorem exists_run (hstep : d.step? now pool = some (d', pool')) :
    ∃ (c : Course μ ε) (h : Handler μ ε) (moves : List (Nat × Move)),
      c.session = d.session ∧ (c.run h moves).session = d'.session := by
  let c : Course μ ε := { session := d.session, dispatcher := .waiting d.memory }
  have hc : c.Shows { d with handler := some (d.handler.getD .deaf) } :=
    ⟨rfl, by rw [if_pos (step?_cases hstep).1]⟩
  obtain ⟨n, hshows⟩ := Course.exists_run_of_step? hc rfl (step?_deaf hstep)
  exact ⟨c, _, _, rfl, hshows.session⟩

end Delivery

end SessionEngine
