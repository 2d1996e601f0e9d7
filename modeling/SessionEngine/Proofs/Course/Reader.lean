import SessionEngine.Proofs.Course.Intake
import SessionEngine.Socket.ReadLoop

/-! Read loops beside the dispatchers of their sessions: the loop takes in what each read gives, as
`loop_start` and `loop_pass` say, and before, between and behind the reads the handler is told of events
and acts, and others answer. `session_step` says that what a read comes to is a run of operations on the
session, so that what is known of operations holds of read loops, and `replays_run` that what they fire
goes through the queue. -/

namespace SessionEngine

variable {ε : Type} [Tls.RecordEngine ε]

namespace ReadLoop

/-- The operations on the session that the end of a read comes to, in order. -/
def deeds (l : ReadLoop ε) (now : Nat) : ReadOutcome → List Deed
  | .data bytes =>
    match (l.session.feed now bytes).1 with
    | .ok () => [.feed bytes, .dispatch]
    | .error e => [.feed bytes, .fire (.exception e), .close]
  | .timedOut => if (l.session.dispatch now).1 = 0 then [.dispatch, .fire .idle] else [.dispatch]
  | .ended => [.dispatch, .close]
  | .failed cause =>
    if l.session.isConnected then [.fire (.exception (.read cause)), .close] else [.close]
  | .closing => [.close]

/-- The end of a read comes to operations on the session, and at the end of the loop one task less
watches for the close. -/
theorem session_step {l : ReadLoop ε} (hrunning : l.running = true) (now : Nat) (outcome : ReadOutcome) :
    ∃ closeSignal, (l.step now outcome).session =
      { (l.deeds now outcome).foldl (fun s d => s.perform now d) l.session with closeSignal } := by
  cases outcome with
  | data bytes =>
    simp only [step, hrunning, deeds]
    cases hfeed : l.session.feed now bytes with
    | mk result s =>
      have hperform : l.session.perform now (.feed bytes) = s := congrArg Prod.snd hfeed
      cases result with
      | ok => exact ⟨_, by simp only [List.foldl_cons, List.foldl_nil, hperform]; rfl⟩
      | error e => exact ⟨_, by simp only [List.foldl_cons, List.foldl_nil, hperform]; rfl⟩
  | timedOut =>
    simp only [step, hrunning, deeds]
    by_cases hnone : (l.session.dispatch now).1 = 0
    · simp only [if_pos hnone]
      exact ⟨_, rfl⟩
    · simp only [if_neg hnone]
      exact ⟨_, rfl⟩
  | ended =>
    simp only [step, hrunning]
    exact ⟨_, rfl⟩
  | failed cause =>
    simp only [step, hrunning, deeds]
    by_cases hconnected : l.session.isConnected = true
    · simp only [if_pos hconnected]
      exact ⟨_, rfl⟩
    · simp only [if_neg hconnected]
      exact ⟨_, rfl⟩
  | closing =>
    simp only [step, hrunning]
    exact ⟨_, rfl⟩

end ReadLoop

/-- A read loop at work, and the course of its session. -/
structure Reader (μ ε : Type) where
  course : Course μ ε
  traffic : Traffic
  running : Bool

/-- What happens next beside a read loop, or to it. -/
inductive Turn where
  /-- A read of the loop ends. -/
  | pass (outcome : ReadOutcome)
  | move (m : Move)

def Turn.outcome? : Turn → Option ReadOutcome
  | .pass outcome => some outcome
  | .move _ => none

def Turn.deed? : Turn → Option Deed
  | .pass _ => none
  | .move m => m.deed?

namespace Reader

def loop (r : Reader μ ε) : ReadLoop ε := ⟨r.course.session, r.traffic, r.running⟩

/-- A read of the loop ends at `now`. -/
def pass (r : Reader μ ε) (now : Nat) (outcome : ReadOutcome) : Reader μ ε :=
  if r.running then
    let l := r.loop.step now outcome
    { course := { r.course.performAll now (r.loop.deeds now outcome) with session := l.session }
      traffic := l.traffic
      running := l.running }
  else r

def turn (h : Handler μ ε) (r : Reader μ ε) (now : Nat) : Turn → Reader μ ε
  | .pass outcome => r.pass now outcome
  | .move m => { r with course := r.course.move h now m }

def run (h : Handler μ ε) (turns : List (Nat × Turn)) (r : Reader μ ε) : Reader μ ε :=
  turns.foldl (fun r t => r.turn h t.1 t.2) r

/-- The loop begins; the dispatcher of the session stands wherever it does. -/
def start (s : Session ε) (dispatcher : Dispatcher μ ε) (traffic : Traffic) (now : Nat) : Reader μ ε :=
  { course := Course.perform { session := s.watchClose, dispatcher } now .dispatch
    traffic
    running := true }

/-- The reads that end along turns, and when. -/
def passes (turns : List (Nat × Turn)) : List (Nat × ReadOutcome) :=
  turns.filterMap fun t => t.2.outcome?.map (t.1, ·)

theorem loop_start (s : Session ε) (dispatcher : Dispatcher μ ε) (traffic : Traffic) (now : Nat) :
    (start s dispatcher traffic now).loop = ReadLoop.start s traffic now := rfl

theorem loop_pass (r : Reader μ ε) (now : Nat) (outcome : ReadOutcome) :
    (r.pass now outcome).loop = r.loop.step now outcome := by
  unfold pass
  split
  · rfl
  next hrunning =>
    have hstopped : r.loop.running = false := Bool.eq_false_iff.mpr hrunning
    simp [ReadLoop.step, hstopped]

/-- The session after the end of a read, up to who watches for the close. -/
theorem session_pass {r : Reader μ ε} (hrunning : r.running = true) (now : Nat) (outcome : ReadOutcome) :
    ∃ closeSignal, (r.pass now outcome).course.session =
      { (r.course.performAll now (r.loop.deeds now outcome)).session with closeSignal } := by
  obtain ⟨closeSignal, hstep⟩ := ReadLoop.session_step (l := r.loop) hrunning now outcome
  refine ⟨closeSignal, ?_⟩
  rw [pass, if_pos hrunning, Course.session_performAll]
  exact hstep

theorem fired_pass {r : Reader μ ε} (hrunning : r.running = true) (now : Nat) (outcome : ReadOutcome) :
    (r.pass now outcome).course.fired =
      (r.course.performAll now (r.loop.deeds now outcome)).fired := by
  rw [pass, if_pos hrunning]

theorem grows_pass (r : Reader μ ε) (now : Nat) (outcome : ReadOutcome) :
    r.course.session.Grows (r.pass now outcome).course.session := by
  by_cases hrunning : r.running = true
  · have hgrows := r.course.grows_performAll now (r.loop.deeds now outcome)
    obtain ⟨closeSignal, hsession⟩ := session_pass hrunning now outcome
    rw [hsession]
    exact ⟨hgrows.settings, hgrows.splitter, hgrows.slot, hgrows.fixtures, hgrows.plain⟩
  · rw [pass, if_neg hrunning]
    exact (Session.Stays.refl _).grows

theorem grows_turn (r : Reader μ ε) (h : Handler μ ε) (now : Nat) (t : Turn) :
    r.course.session.Grows (r.turn h now t).course.session := by
  cases t with
  | pass outcome => exact r.grows_pass now outcome
  | move m =>
    cases m with
    | deed d => exact Session.grows_perform r.course.session now d
    | tell => exact (r.course.aside_tell h).grows
    | act => exact r.course.grows_act now

theorem grows_run (h : Handler μ ε) (turns : List (Nat × Turn)) (r : Reader μ ε) :
    r.course.session.Grows (r.run h turns).course.session := by
  induction turns generalizing r with
  | nil => exact (Session.Stays.refl _).grows
  | cons t turns ih => exact (r.grows_turn h t.1 t.2).trans (ih (r.turn h t.1 t.2))

/-- A loop that has ended does not begin again. -/
theorem running_of_pass {r : Reader μ ε} {now : Nat} {outcome : ReadOutcome}
    (hrunning : (r.pass now outcome).running = true) : r.running = true := by
  by_contra hstopped
  rw [pass, if_neg hstopped] at hrunning
  exact hstopped hrunning

theorem running_of_run {r : Reader μ ε} {h : Handler μ ε} {turns : List (Nat × Turn)}
    (hrunning : (r.run h turns).running = true) : r.running = true := by
  induction turns generalizing r with
  | nil => exact hrunning
  | cons t turns ih =>
    have hturn : (r.turn h t.1 t.2).running = true := ih hrunning
    obtain ⟨now, t⟩ := t
    cases t with
    | pass outcome => exact running_of_pass hturn
    | move m => exact hturn

/-- A loop that goes on behind a chunk has taken it in. -/
theorem feed_of_running {r : Reader μ ε} {now : Nat} {bytes : Bytes}
    (hrunning : (r.pass now (.data bytes)).running = true) :
    (r.course.session.feed now bytes).1 = .ok () := by
  have hbefore : r.loop.running = true := running_of_pass hrunning
  have hloop : (r.loop.step now (.data bytes)).running = true := by
    rw [← loop_pass]
    exact hrunning
  cases hfeed : r.course.session.feed now bytes with
  | mk result s =>
    cases result with
    | ok => rfl
    | error e =>
      have hfeed' : r.loop.session.feed now bytes = (.error e, s) := hfeed
      simp only [ReadLoop.step, hbefore, hfeed'] at hloop
      cases hloop

theorem replays_pass {q : EventQueue} {r : Reader μ ε} (h : r.course.Replays q) (now : Nat)
    (outcome : ReadOutcome) : (r.pass now outcome).course.Replays q := by
  by_cases hrunning : r.running = true
  · have hall := h.performAll now (r.loop.deeds now outcome)
    obtain ⟨closeSignal, hsession⟩ := session_pass hrunning now outcome
    have htold : (r.pass now outcome).course.told =
        (r.course.performAll now (r.loop.deeds now outcome)).told := by rw [pass, if_pos hrunning]
    unfold Course.Replays at hall ⊢
    rw [fired_pass hrunning, hsession, htold]
    exact hall
  · rw [pass, if_neg hrunning]
    exact h

/-- What a read loop, its handler and others fire goes through the queue to the handler. -/
theorem replays_run (h : Handler μ ε) (s : Session ε) (dispatcher : Dispatcher μ ε) (traffic : Traffic)
    (now : Nat) (turns : List (Nat × Turn)) :
    ((start s dispatcher traffic now).run h turns).course.Replays s.events := by
  have hbegin : Course.Replays s.events ({ session := s.watchClose, dispatcher } : Course μ ε) := rfl
  have hall : ∀ (turns : List (Nat × Turn)) (r : Reader μ ε), r.course.Replays s.events →
      (r.run h turns).course.Replays s.events := by
    intro turns
    induction turns with
    | nil => exact fun r hr => hr
    | cons t turns ih =>
      intro r hr
      obtain ⟨now, t⟩ := t
      cases t with
      | pass outcome => exact ih _ (replays_pass hr now outcome)
      | move m => exact ih _ (hr.move h now m)
  exact hall turns _ (hbegin.perform now .dispatch)

end Reader

end SessionEngine
