import SessionEngine.Proofs.EventTrace

/-! Sessions whose events are delivered on one pool of workers, move by move: their owners and loops do
things to them, their dispatchers call the handlers, deliveries begin and end, and somebody may shut the
pool down by way of a session. What a delivery does in one go are such moves (`shows_begin`, `pool_shutdown`,
`exists_moves_of_step?`). A move stops the pool only if it belongs to the session, by hand or behind its
delivery (`stops_cases`), and `Sound.told_of_over` says what the handler was told of by then. -/

namespace SessionEngine

variable {ε : Type}

theorem EventQueue.accepted_prefix {fired fired' : List Event} (h : fired <+: fired') :
    accepted fired <+: accepted fired' := by
  obtain ⟨more, rfl⟩ := h
  rw [accepted, accepted, acceptedBehind_append]
  exact List.prefix_append _ _

def Dispatcher.isOver : Dispatcher μ ε → Bool
  | .over _ => true
  | _ => false

theorem Dispatcher.isOver_iff {d : Dispatcher μ ε} : d.isOver = true ↔ ∃ memory, d = .over memory := by
  cases d <;> simp [isOver]

namespace Course

/-- `c'` comes behind `c`: what was fired and told of stays so. -/
structure Extends (c c' : Course μ ε) : Prop where
  fired : c.fired <+: c'.fired
  told : c.told <+: c'.told

theorem Extends.refl (c : Course μ ε) : c.Extends c := ⟨List.prefix_rfl, List.prefix_rfl⟩

theorem Extends.trans {c1 c2 c3 : Course μ ε} (h1 : c1.Extends c2) (h2 : c2.Extends c3) : c1.Extends c3 :=
  ⟨h1.fired.trans h2.fired, h1.told.trans h2.told⟩

/-- When the dispatcher is over the handler was told of all that is accepted, the disconnect last. -/
theorem Traced.told_of_over {c : Course μ ε} (htraced : c.Traced) (hreplays : c.Replays .empty)
    (hover : c.dispatcher.isOver = true) :
    c.told = EventQueue.accepted c.fired ∧ ∃ before, c.told = before ++ [.disconnect] := by
  obtain ⟨memory, hmemory⟩ := Dispatcher.isOver_iff.mp hover
  have haccepted : c.queued = EventQueue.accepted c.fired :=
    hreplays.queued.trans (EventQueue.records_foldl c.fired).pending
  -- Nothing is accepted behind the disconnect, so nothing waits.
  obtain ⟨before, after, htold⟩ := List.append_of_mem (htraced.ends memory hmemory)
  rw [queued, htold, List.append_assoc, List.cons_append] at haccepted
  have hnone := EventQueue.accepted_ends haccepted.symm
  rw [hnone] at haccepted
  obtain ⟨rfl, -⟩ := List.append_eq_nil_iff.mp hnone
  exact ⟨htold.trans haccepted, before, htold⟩

variable [Tls.RecordEngine ε]

theorem extends_move (c : Course μ ε) (h : Handler μ ε) (now : Nat) (m : Move) :
    c.Extends (c.move h now m) := by
  have hperform : ∀ (c : Course μ ε) d, c.Extends (c.perform now d) :=
    fun c d => ⟨List.prefix_append _ _, List.prefix_rfl⟩
  cases m with
  | deed d => exact hperform c d
  | tell =>
    simp only [move, tell]
    split
    · exact ⟨List.prefix_rfl, List.prefix_append _ _⟩
    · exact .refl c
  | act =>
    simp only [move, act]
    split
    next e script _ =>
      have hall : ∀ (c : Course μ ε) deeds, c.Extends (c.performAll now deeds) := by
        intro c deeds
        induction deeds generalizing c with
        | nil => exact .refl c
        | cons d deeds ih => exact (hperform c d).trans (ih _)
      exact ⟨(hall c _).fired, (hall c _).told⟩
    · exact .refl c

end Course

/-- A session whose events are delivered on a pool of workers. -/
structure Tenant (μ ε : Type) where
  course : Course μ ε
  /-- Who is told; with nobody, events are taken and forgotten. -/
  handler : Option (Handler μ ε)
  /-- Whether the pool belongs to this session and ends with it. -/
  ownsPool : Bool
  phase : DeliveryPhase := .idle

namespace Tenant

inductive Move where
  | deed (now : Nat) (d : Deed)
  | tell
  | act (now : Nat)
  | begin
  /-- The delivery is over, and whoever waits for that goes on. -/
  | finish
  /-- The task of the delivery ends, and takes the pool with it if that belongs to the session. -/
  | vacate
  /-- Somebody shuts the pool down by way of the session. -/
  | shutdown

def audience (t : Tenant μ ε) : Handler μ ε := t.handler.getD .deaf

def enter (s : Session ε) (handler : Option (Handler μ ε)) (memory : μ) (ownsPool : Bool) : Tenant μ ε where
  course := .start s memory
  handler := handler
  ownsPool := ownsPool

variable {t : Tenant μ ε} {pool : Workers}

/-- `t'` is `t` later: what was fired and told of stays so, and a delivery that has begun. -/
structure Later (t t' : Tenant μ ε) : Prop where
  course : t.course.Extends t'.course
  begun : t.phase ≠ .idle → t'.phase ≠ .idle

theorem Later.refl (t : Tenant μ ε) : t.Later t := ⟨.refl t.course, id⟩

theorem Later.trans {t1 t2 t3 : Tenant μ ε} (h1 : t1.Later t2) (h2 : t2.Later t3) : t1.Later t3 :=
  ⟨h1.course.trans h2.course, h2.begun ∘ h1.begun⟩

/-- The session was new once, and the handler hears of what was fired. -/
structure Sound (t : Tenant μ ε) : Prop where
  traced : t.course.Traced
  replays : t.course.Replays .empty

theorem sound_enter {s : Session ε} (hqueue : s.events = .empty) (hopen : s.stage.isOpen = true)
    (handler : Option (Handler μ ε)) (memory : μ) (ownsPool : Bool) :
    (enter s handler memory ownsPool).Sound :=
  ⟨Course.traced_start hopen memory, hqueue.symm⟩

theorem Sound.accepted (ht : t.Sound) :
    t.course.told ++ t.course.session.events.pending = EventQueue.accepted t.course.fired :=
  ht.replays.queued.trans (EventQueue.records_foldl t.course.fired).pending

theorem Sound.told_of_over (ht : t.Sound) (hover : t.course.dispatcher.isOver = true) :
    t.course.told = EventQueue.accepted t.course.fired ∧
      ∃ before, t.course.told = before ++ [.disconnect] :=
  ht.traced.told_of_over ht.replays hover

variable [Tls.RecordEngine ε]

/-- A session, and the pool it is on, after a move. A pool that is shut down lets no delivery begin and
no dispatcher take an event. -/
def move (t : Tenant μ ε) (pool : Workers) : Move → Tenant μ ε × Workers
  | .deed now d => ({ t with course := t.course.perform now d }, pool)
  | .tell =>
    (if t.phase = .running ∧ pool.stopped = false then { t with course := t.course.tell t.audience }
      else t, pool)
  | .act now => ({ t with course := t.course.act now }, pool)
  | .begin =>
    (if t.phase = .idle then { t with phase := if pool.stopped then .finished else .running } else t, pool)
  | .finish =>
    (if t.phase = .running ∧ t.course.dispatcher.isOver then { t with phase := .finished } else t, pool)
  | .vacate =>
    (t, if t.phase = .finished ∧ t.course.dispatcher.isOver ∧ t.ownsPool then pool.shutdown else pool)
  | .shutdown => (t, if t.ownsPool then pool.shutdown else pool)

/-! ### What a move leaves alone -/

/-- A move is at most one of the course, and the handler and the owner of the pool stay. -/
theorem move_cases (t : Tenant μ ε) (pool : Workers) (m : Move) :
    (t.move pool m).1.handler = t.handler ∧ (t.move pool m).1.ownsPool = t.ownsPool ∧
      ((t.move pool m).1.course = t.course ∨
        ∃ now m', (t.move pool m).1.course = t.course.move t.audience now m') := by
  cases m with
  | deed now d => exact ⟨rfl, rfl, .inr ⟨now, .deed d, rfl⟩⟩
  | act now => exact ⟨rfl, rfl, .inr ⟨now, .act, rfl⟩⟩
  | tell =>
    simp only [move]
    split
    · exact ⟨rfl, rfl, .inr ⟨0, .tell, rfl⟩⟩
    · exact ⟨rfl, rfl, .inl rfl⟩
  | begin | finish =>
    simp only [move]
    split <;> exact ⟨rfl, rfl, .inl rfl⟩
  | vacate | shutdown => exact ⟨rfl, rfl, .inl rfl⟩

theorem ownsPool_move (t : Tenant μ ε) (pool : Workers) (m : Move) :
    (t.move pool m).1.ownsPool = t.ownsPool := (t.move_cases pool m).2.1

theorem extends_move (t : Tenant μ ε) (pool : Workers) (m : Move) :
    t.course.Extends (t.move pool m).1.course := by
  obtain ⟨-, -, h | ⟨now, m', h⟩⟩ := t.move_cases pool m
  · rw [h]
    exact .refl _
  · rw [h]
    exact t.course.extends_move t.audience now m'

theorem later_move (t : Tenant μ ε) (pool : Workers) (m : Move) : t.Later (t.move pool m).1 := by
  refine ⟨t.extends_move pool m, fun hbegun => ?_⟩
  cases m with
  | begin | finish =>
    simp only [move]
    split
    · first | contradiction | exact nofun
    · exact hbegun
  | tell =>
    simp only [move]
    split <;> exact hbegun
  | _ => exact hbegun

/-- A dispatcher that is over stays so, and a delivery that is over, too. -/
theorem over_move (hover : t.course.dispatcher.isOver = true) (m : Move) :
    (t.move pool m).1.course.dispatcher.isOver = true ∧
      (t.phase = .finished → (t.move pool m).1.phase = .finished) := by
  obtain ⟨memory, hmemory⟩ := Dispatcher.isOver_iff.mp hover
  cases m with
  | deed now d => exact ⟨hover, id⟩
  | act now =>
    simp only [move, Course.act, hmemory]
    exact ⟨rfl, id⟩
  | tell =>
    simp only [move, Course.tell, hmemory]
    split <;> exact ⟨hover, id⟩
  | begin =>
    simp only [move]
    split
    next hidle => exact ⟨hover, fun hfinished => by rw [hidle] at hfinished; cases hfinished⟩
    · exact ⟨hover, id⟩
  | finish =>
    simp only [move]
    split
    · exact ⟨hover, fun _ => rfl⟩
    · exact ⟨hover, id⟩
  | vacate | shutdown => exact ⟨hover, id⟩

theorem over_of_finished_move (hrunning : pool.stopped = false)
    (ht : t.phase = .finished → t.course.dispatcher.isOver = true) (m : Move) :
    (t.move pool m).1.phase = .finished → (t.move pool m).1.course.dispatcher.isOver = true := by
  intro hfinished
  by_cases hbefore : t.phase = .finished
  · exact (over_move (ht hbefore) m).1
  · cases m with
    | begin =>
      simp only [move, hrunning] at hfinished
      split at hfinished
      · cases hfinished
      · exact absurd hfinished hbefore
    | finish =>
      simp only [move] at hfinished ⊢
      split at hfinished
      next hover =>
        rw [if_pos hover]
        exact hover.2
      · exact absurd hfinished hbefore
    | tell =>
      simp only [move] at hfinished
      split at hfinished <;> exact absurd hfinished hbefore
    | _ => exact absurd hfinished hbefore

/-! ### The pool -/

theorem pool_move_of_guest (howns : t.ownsPool = false) (m : Move) : (t.move pool m).2 = pool := by
  cases m with
  | vacate | shutdown => simp [move, howns]
  | _ => rfl

theorem stopped_move (hstopped : pool.stopped = true) (m : Move) : (t.move pool m).2.stopped = true := by
  cases m with
  | vacate | shutdown =>
    simp only [move]
    split
    · rfl
    · exact hstopped
  | _ => exact hstopped

/-- A pool is stopped by a session that it belongs to: by hand, or behind its delivery. -/
theorem stops_cases {m : Move} (hrunning : pool.stopped = false)
    (hstops : (t.move pool m).2.stopped = true) :
    t.ownsPool = true ∧
      (m = .shutdown ∨ t.phase = .finished ∧ t.course.dispatcher.isOver = true) := by
  cases m with
  | vacate =>
    simp only [move] at hstops
    split at hstops
    next h => exact ⟨h.2.2, .inr ⟨h.1, h.2.1⟩⟩
    · rw [hrunning] at hstops
      cases hstops
  | shutdown =>
    simp only [move] at hstops
    split at hstops
    next howns => exact ⟨howns, .inl rfl⟩
    · rw [hrunning] at hstops
      cases hstops
  | _ =>
    have hsame : pool.stopped = true := hstops
    rw [hrunning] at hsame
    cases hsame

/-! ### What the handler was told of -/

theorem Sound.move (ht : t.Sound) (pool : Workers) (m : Move) : (t.move pool m).1.Sound := by
  obtain ⟨-, -, h | ⟨now, m', h⟩⟩ := t.move_cases pool m
  · exact ⟨h ▸ ht.traced, h ▸ ht.replays⟩
  · exact ⟨h ▸ ht.traced.move t.audience now m', h ▸ ht.replays.move t.audience now m'⟩

/-- The handler was told of `heard`, and the dispatcher waits although more is accepted. -/
structure Due (t : Tenant μ ε) (heard : List Event) : Prop where
  sound : t.Sound
  running : t.phase = .running
  waiting : ∃ memory, t.course.dispatcher = .waiting memory
  told : t.course.told = heard
  more : heard.length < (EventQueue.accepted t.course.fired).length

theorem Due.move {heard : List Event} (ht : t.Due heard) (pool : Workers) {m : Move} (hm : m ≠ .tell) :
    (t.move pool m).1.Due heard := by
  obtain ⟨memory, hwaiting⟩ := ht.waiting
  cases m with
  | deed now d =>
    refine ⟨ht.sound.move pool (.deed now d), ht.running, ⟨memory, hwaiting⟩, ht.told, ?_⟩
    have hfired := (t.extends_move pool (.deed now d)).fired
    exact Nat.lt_of_lt_of_le ht.more (EventQueue.accepted_prefix hfired).length_le
  | tell => exact absurd rfl hm
  | act now =>
    have hsame : t.course.act now = t.course := by simp only [Course.act, hwaiting]
    simp only [Tenant.move, hsame]
    exact ht
  | begin =>
    simp only [Tenant.move, ht.running, reduceCtorEq, if_false]
    exact ht
  | finish =>
    simp only [Tenant.move, hwaiting, Dispatcher.isOver, Bool.false_eq_true, and_false, if_false]
    exact ht
  | vacate | shutdown => exact ht

theorem Due.tell {heard : List Event} (ht : t.Due heard) (hrunning : pool.stopped = false) :
    heard.length < (t.move pool .tell).1.course.told.length := by
  obtain ⟨memory, hwaiting⟩ := ht.waiting
  have hpending : t.course.session.events.pending ≠ [] := by
    intro hnone
    have haccepted := ht.sound.accepted
    rw [hnone, List.append_nil, ht.told] at haccepted
    exact absurd (congrArg List.length haccepted) (Nat.ne_of_lt ht.more)
  obtain ⟨e, rest, hnext⟩ := List.exists_cons_of_ne_nil hpending
  simp only [Tenant.move, ht.running, hrunning, and_self, if_true, Course.tell, hwaiting,
    EventQueue.pop?, hnext, List.length_append, ht.told]
  exact Nat.lt_succ_self _

/-! ### Deliveries in one go -/

/-- The session stands where a delivery stands. -/
structure Shows (t : Tenant μ ε) (d : Delivery μ ε) : Prop where
  session : t.course.session = d.session
  handler : t.handler = d.handler
  ownsPool : t.ownsPool = d.ownsPool
  phase : t.phase = d.phase
  dispatcher : d.phase ≠ .finished → t.course.dispatcher = .waiting d.memory

def run (t : Tenant μ ε) (pool : Workers) (moves : List Move) : Tenant μ ε × Workers :=
  moves.foldl (fun x m => x.1.move x.2 m) (t, pool)

theorem run_acts (t : Tenant μ ε) (pool : Workers) (now n : Nat) (moves : List Move) :
    t.run pool (List.replicate n (.act now) ++ moves) =
      { t with course := t.course.run t.audience (List.replicate n (now, .act)) }.run pool moves := by
  induction n generalizing t with
  | zero => rfl
  | succ n ih => exact ih { t with course := t.course.act now }

theorem shows_begin {t : Tenant μ ε} {d : Delivery μ ε} (h : t.Shows d) (pool : Workers) :
    (t.move pool .begin).1.Shows (d.start pool) ∧ (t.move pool .begin).2 = pool := by
  refine ⟨?_, rfl⟩
  simp only [move, Delivery.start, h.phase]
  split
  next hidle =>
    refine ⟨h.session, h.handler, h.ownsPool, rfl, fun _ => h.dispatcher ?_⟩
    rw [hidle]
    exact nofun
  · exact h

theorem pool_shutdown {t : Tenant μ ε} {d : Delivery μ ε} (h : t.Shows d) (pool : Workers) :
    t.move pool .shutdown = (t, d.shutdown pool) := by
  simp only [move, Delivery.shutdown, h.ownsPool]

/-- A delivery in one go is a run of moves: an event is told of, the callback acts until it is done, and
behind the disconnect the delivery is over and the pool may go. -/
theorem exists_moves_of_step? {t : Tenant μ ε} {d d' : Delivery μ ε} {pool pool' : Workers} {now : Nat}
    (ht : t.Shows d) (hstep : d.step? now pool = some (d', pool')) :
    ∃ n, let moves := .tell :: (List.replicate n (.act now) ++ [.finish, .vacate])
      (t.run pool moves).1.Shows d' ∧ (t.run pool moves).2 = pool' := by
  obtain ⟨hrunning, hpool, hhandler, howns, hend⟩ := Delivery.step?_cases hstep
  have hwaiting : t.course.dispatcher = .waiting d.memory := ht.dispatcher (by rw [hrunning]; exact nofun)
  have hshows : t.course.Shows { d with handler := some (d.handler.getD .deaf) } :=
    ⟨ht.session, by rw [hwaiting, if_pos hrunning]⟩
  obtain ⟨n, hcourse⟩ := Course.exists_run_of_step? hshows rfl (Delivery.step?_deaf hstep)
  have haudience : t.audience = d.handler.getD .deaf := congrArg (·.getD .deaf) ht.handler
  rw [← haudience] at hcourse
  have htell : t.move pool .tell = ({ t with course := t.course.tell t.audience }, pool) := by
    simp only [move, ht.phase, hrunning, hpool, and_self, if_true]
  refine ⟨n, ?_⟩
  have hrun : t.run pool (.tell :: (List.replicate n (.act now) ++ [.finish, .vacate])) =
      { t with course := t.course.run t.audience ((now, .tell) :: List.replicate n (now, .act)) }.run pool
        [.finish, .vacate] := by
    rw [run, List.foldl_cons, htell]
    exact run_acts { t with course := t.course.tell t.audience } pool now n [.finish, .vacate]
  generalize t.course.run t.audience ((now, .tell) :: List.replicate n (now, .act)) = c at hcourse hrun
  obtain ⟨hsession, hdispatcher⟩ := hcourse
  simp only [hrun]
  have hphase : t.phase = .running := ht.phase.trans hrunning
  rcases hend with ⟨hfinished, rfl⟩ | ⟨hgoes, hsame⟩
  · rw [hfinished, if_neg nofun] at hdispatcher
    have hfinish : ({ t with course := c } : Tenant μ ε).run pool [.finish, .vacate] =
        ({ t with course := c, phase := .finished }, d.shutdown pool) := by
      simp [run, move, hphase, hdispatcher, Dispatcher.isOver, ht.ownsPool, Delivery.shutdown]
    rw [hfinish]
    exact ⟨⟨hsession, ht.handler.trans hhandler.symm, ht.ownsPool.trans howns.symm, hfinished.symm,
      fun h => absurd hfinished h⟩, rfl⟩
  · rw [hgoes, if_pos rfl] at hdispatcher
    have hstay : ({ t with course := c } : Tenant μ ε).run pool [.finish, .vacate] =
        ({ t with course := c }, pool) := by
      simp [run, move, hphase, hdispatcher, Dispatcher.isOver]
    rw [hstay, hsame]
    exact ⟨⟨hsession, ht.handler.trans hhandler.symm, ht.ownsPool.trans howns.symm,
      hphase.trans hgoes.symm, fun _ => hdispatcher⟩, rfl⟩

end Tenant

end SessionEngine
