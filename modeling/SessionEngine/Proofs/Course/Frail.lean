import SessionEngine.Proofs.Course.Endless

/-! Courses in which panics take time and may do harm. A callback that panics and the dispatcher that
hears of it are two moves, and others may come in between. And a callback may panic while it looks at the
bytes of the read buffer: that poisons the lock of the buffer, and from then on whoever takes the lock
panics too, a close on its way as well. As long as the lock is sound nothing of this shows: such a course
is an ordinary one, in which the callback ends when the dispatcher hears of its panic (`exists_agenda`).
-/

namespace SessionEngine

/-- A handler of which is known where its callbacks break off. -/
structure FrailHandler (μ ε : Type) extends Handler μ ε where
  /-- Whether a callback that panics and leaves this memory does so while it looks at the bytes of the
  buffer. -/
  locks : μ → Bool
  /-- The memory that a callback leaves that panics in the next of its actions. -/
  broken : Script μ ε → μ

structure FrailCourse (μ ε : Type) extends Course μ ε where
  /-- The callback at work has panicked, and the dispatcher has not heard of it. -/
  panicked : Bool := false
  /-- The lock of the read buffer is poisoned. -/
  poisoned : Bool := false
  /-- The dispatcher has panicked itself, and delivers nothing more. -/
  dead : Bool := false

inductive FrailMove where
  | deed (d : Deed)
  /-- The dispatcher takes the oldest event and calls the handler. -/
  | tell
  /-- The callback that is at work takes one action, ends or panics. -/
  | act
  /-- The dispatcher hears that the callback has panicked. -/
  | hear

/-- The moves of such a course that never ends, each with its time. -/
abbrev FrailAgenda := Nat → Nat × FrailMove

/-- The dispatcher goes on, and hears of every panic. -/
def FrailAgenda.Serves (agenda : FrailAgenda) : Prop :=
  ∀ n, (∃ k ≥ n, (agenda k).2 = .tell) ∧ (∃ k ≥ n, (agenda k).2 = .act) ∧ ∃ k ≥ n, (agenda k).2 = .hear

/-- Whether an operation takes the lock of the read buffer. -/
def Deed.locks : Deed → Bool
  | .feed _ | .take | .dispatch | .look | .lastLook | .close => true
  | .fire _ | .send _ | .attach .. | .beat _ | .establish | .installWriter | .dropWriter | .setMode _ => false

namespace FrailAgenda

/-- First some moves, and then the dispatcher and its callback in turn. -/
def turning (moves : List FrailMove) : FrailAgenda :=
  fun n => (0, moves.getD n (if n % 3 = 0 then .tell else if n % 3 = 1 then .act else .hear))

theorem turning_of_le {moves : List FrailMove} {n : Nat} (hn : moves.length ≤ n) :
    (turning moves n).2 = if n % 3 = 0 then .tell else if n % 3 = 1 then .act else .hear := by
  simp only [turning, List.getD_eq_getElem?_getD, List.getElem?_eq_none hn, Option.getD_none]

theorem serves_turning (moves : List FrailMove) : (turning moves).Serves := by
  refine fun n => ⟨⟨3 * (n + moves.length), by omega, ?_⟩, ⟨3 * (n + moves.length) + 1, by omega, ?_⟩,
    3 * (n + moves.length) + 2, by omega, ?_⟩
  · rw [turning_of_le (by omega), if_pos (by omega)]
  · rw [turning_of_le (by omega), if_neg (by omega), if_pos (by omega)]
  · rw [turning_of_le (by omega), if_neg (by omega), if_neg (by omega)]

/-- Nobody does anything else. -/
theorem turning_ne {moves : List FrailMove} {d : Deed} (hmoves : .deed d ∉ moves) (n : Nat) :
    (turning moves n).2 ≠ .deed d := by
  rcases Nat.lt_or_ge n moves.length with hn | hn
  · intro h
    refine hmoves ?_
    rw [← h]
    simp only [turning, List.getD_eq_getElem?_getD, List.getElem?_eq_getElem hn, Option.getD_some]
    exact List.getElem_mem hn
  · rw [turning_of_le hn]
    split
    · exact nofun
    · split <;> exact nofun

end FrailAgenda

variable {ε : Type}

/-- Whether the callback at work panics next. -/
def Dispatcher.breaks : Dispatcher μ ε → Bool
  | .calling _ (.panic _) => true
  | _ => false

/-- A move that changes nothing, where the dispatcher stands. -/
def Dispatcher.idling : Dispatcher μ ε → Move
  | .calling .. => .tell
  | .waiting _ | .over _ => .act

theorem Dispatcher.calling_of_breaks {d : Dispatcher μ ε} (hd : d.breaks = true) :
    ∃ e memory, d = .calling e (.panic memory) := by
  unfold breaks at hd
  split at hd
  next e memory => exact ⟨e, memory, rfl⟩
  · cases hd

namespace FrailCourse

def start (s : Session ε) (memory : μ) : FrailCourse μ ε := { toCourse := .start s memory }

/-- What a move comes to in an ordinary course. -/
def plain (w : FrailCourse μ ε) : FrailMove → Move
  | .deed d => .deed d
  | .tell => .tell
  | .act => if w.panicked || w.dispatcher.breaks then w.dispatcher.idling else .act
  | .hear => if w.panicked then .act else w.dispatcher.idling

/-- Nothing has met the lock, and what has panicked is a callback. -/
structure Sound (w : FrailCourse μ ε) : Prop where
  lock : w.poisoned = false
  alive : w.dead = false
  panicked : w.panicked = true → w.dispatcher.breaks = true

theorem deed_of_plain {w : FrailCourse μ ε} {m : FrailMove} {d : Deed} (hd : w.plain m = .deed d) :
    m = .deed d := by
  have hidling : w.dispatcher.idling ≠ .deed d := by
    unfold Dispatcher.idling
    split <;> exact nofun
  cases m with
  | deed d' => rw [Move.deed.inj hd]
  | tell => cases hd
  | act =>
    simp only [plain] at hd
    split at hd
    · exact absurd hd hidling
    · cases hd
  | hear =>
    simp only [plain] at hd
    split at hd
    · cases hd
    · exact absurd hd hidling

end FrailCourse

variable [Tls.RecordEngine ε]

/-- What becomes of the session in an operation that meets the poisoned lock: what the operation does
before. -/
def Session.breakOff (s : Session ε) (now : Nat) : Deed → Session ε
  | .feed data =>
    -- Plaintext goes nowhere.
    { ({ s with buffer := { s.buffer with limit := 0, contents := [] } }.feed now data).2 with
      buffer := s.buffer }
  | .close =>
    if s.stage.isOpen then
      { s.close.2 with
        stage := .closing
        buffer := s.buffer
        closeSignal := s.closeSignal
        events := s.events }
    else s
  | _ => s

namespace FrailCourse

def perform (w : FrailCourse μ ε) (now : Nat) (d : Deed) : FrailCourse μ ε :=
  { w with toCourse :=
      if w.poisoned && d.locks then { w.toCourse with session := w.session.breakOff now d }
      else w.toCourse.perform now d }

/-- The callback that is at work takes one action, ends or panics. -/
def act (h : FrailHandler μ ε) (w : FrailCourse μ ε) (now : Nat) : FrailCourse μ ε :=
  if w.panicked || w.dead then w
  else match w.dispatcher with
    | .calling _ (.panic memory) => { w with panicked := true, poisoned := w.poisoned || h.locks memory }
    | .calling e (.close next) =>
      if w.poisoned && w.session.stage.isOpen then
        { w with
          session := w.session.breakOff now .close
          dispatcher := .calling e (.panic (h.broken (.close next)))
          panicked := true }
      else { w with toCourse := w.toCourse.act now }
    | _ => { w with toCourse := w.toCourse.act now }

/-- The dispatcher hears of a panic, which ends the callback. It may have to close the session, and meet the
lock. -/
def hear (w : FrailCourse μ ε) (now : Nat) : FrailCourse μ ε :=
  match w.panicked, w.dispatcher with
  | true, .calling e _ =>
    if w.poisoned && w.session.stage.isOpen && e.callback == .onException then
      { w with session := w.session.breakOff now .close, panicked := false, dead := true }
    else { w with toCourse := w.toCourse.act now, panicked := false }
  | _, _ => w

def move (h : FrailHandler μ ε) (w : FrailCourse μ ε) (now : Nat) : FrailMove → FrailCourse μ ε
  | .deed d => w.perform now d
  | .tell => { w with toCourse := w.toCourse.tell h.toHandler }
  | .act => w.act h now
  | .hear => w.hear now

/-- The course after its first moves. -/
def along (w : FrailCourse μ ε) (h : FrailHandler μ ε) (agenda : FrailAgenda) : Nat → FrailCourse μ ε
  | 0 => w
  | n + 1 => (w.along h agenda n).move h (agenda n).1 (agenda n).2

variable {w : FrailCourse μ ε} {h : FrailHandler μ ε} {agenda : FrailAgenda}

theorem move_idling (c : Course μ ε) (h : Handler μ ε) (now : Nat) : c.move h now c.dispatcher.idling = c := by
  rcases hdispatcher : c.dispatcher with memory | ⟨e, rest⟩ | memory <;>
    simp [Dispatcher.idling, Course.move, Course.act, Course.tell, hdispatcher]

theorem act_of_breaks (hw : w.Sound) (hpanicked : w.panicked = false) {e : Event} {memory : μ}
    (hcall : w.dispatcher = .calling e (.panic memory)) (now : Nat) :
    w.act h now = { w with panicked := true, poisoned := h.locks memory } := by
  simp only [act, hpanicked, hw.alive, hcall, hw.lock, Bool.or_false, Bool.false_or, Bool.false_eq_true,
    if_false]

/-- A panic that does not come under the lock changes nothing, but that it is to be heard of. -/
theorem act_of_safe (hw : w.Sound) (hpanicked : w.panicked = false) {e : Event} {memory : μ}
    (hcall : w.dispatcher = .calling e (.panic memory)) {now : Nat} (hsafe : (w.act h now).poisoned = false) :
    w.act h now = { w with panicked := true } := by
  rw [act_of_breaks hw hpanicked hcall] at hsafe ⊢
  rw [show h.locks memory = false from hsafe, ← hw.lock]

theorem act_of_not_breaks (hw : w.Sound) (hpanicked : w.panicked = false)
    (hbreaks : w.dispatcher.breaks = false) (now : Nat) :
    w.act h now = { w with toCourse := w.toCourse.act now } := by
  simp only [act, hpanicked, hw.alive, Bool.or_false, Bool.false_eq_true, if_false, hw.lock, Bool.false_and]
  split
  next hcall =>
    rw [hcall] at hbreaks
    cases hbreaks
  · rfl
  · rfl

theorem hear_of_panicked (hw : w.Sound) (hpanicked : w.panicked = true) (now : Nat) :
    w.hear now = { w with toCourse := w.toCourse.act now, panicked := false } := by
  obtain ⟨e, memory, hcall⟩ := Dispatcher.calling_of_breaks (hw.panicked hpanicked)
  simp only [hear, hpanicked, hcall, hw.lock, Bool.false_and, Bool.false_eq_true, if_false]

theorem hear_of_not_panicked (hpanicked : w.panicked = false) (now : Nat) : w.hear now = w := by
  simp only [hear, hpanicked]

/-- As long as the lock is sound, a move is one of an ordinary course. -/
theorem Sound.move (hw : w.Sound) (h : FrailHandler μ ε) (now : Nat) (m : FrailMove)
    (hlock : (w.move h now m).poisoned = false) :
    (w.move h now m).toCourse = w.toCourse.move h.toHandler now (w.plain m) ∧ (w.move h now m).Sound := by
  cases m with
  | deed d =>
    have hperform : w.move h now (.deed d) = { w with toCourse := w.toCourse.perform now d } := by
      simp only [FrailCourse.move, perform, hw.lock, Bool.false_and, Bool.false_eq_true, if_false]
    rw [hperform]
    exact ⟨rfl, hw.lock, hw.alive, hw.panicked⟩
  | tell =>
    refine ⟨rfl, hw.lock, hw.alive, fun hpanicked => ?_⟩
    obtain ⟨e, memory, hcall⟩ := Dispatcher.calling_of_breaks (hw.panicked hpanicked)
    have htell : (w.toCourse.tell h.toHandler).dispatcher = w.dispatcher := by
      simp only [Course.tell, hcall]
    exact (congrArg Dispatcher.breaks htell).trans (hw.panicked hpanicked)
  | act =>
    simp only [FrailCourse.move] at hlock ⊢
    cases hpanicked : w.panicked with
    | true =>
      have hsame : w.act h now = w := by simp only [act, hpanicked, Bool.true_or, if_true]
      rw [hsame, plain, hpanicked, Bool.true_or, if_pos rfl, move_idling]
      exact ⟨rfl, hw⟩
    | false =>
      cases hbreaks : w.dispatcher.breaks with
      | true =>
        obtain ⟨e, memory, hcall⟩ := Dispatcher.calling_of_breaks hbreaks
        rw [act_of_breaks hw hpanicked hcall] at hlock ⊢
        rw [plain, hbreaks, Bool.or_true, if_pos rfl, move_idling]
        exact ⟨rfl, hlock, hw.alive, fun _ => hbreaks⟩
      | false =>
        rw [act_of_not_breaks hw hpanicked hbreaks, plain, hpanicked, hbreaks]
        exact ⟨rfl, hw.lock, hw.alive, fun hpanicked => absurd hpanicked Bool.false_ne_true⟩
  | hear =>
    simp only [FrailCourse.move] at hlock ⊢
    cases hpanicked : w.panicked with
    | true =>
      rw [hear_of_panicked hw hpanicked, plain, hpanicked]
      exact ⟨rfl, hw.lock, hw.alive, fun hpanicked => absurd hpanicked Bool.false_ne_true⟩
    | false =>
      rw [hear_of_not_panicked hpanicked, plain, hpanicked, if_neg Bool.false_ne_true, move_idling]
      exact ⟨rfl, hw⟩

/-- Without a panic under it the lock stays sound. -/
theorem lock_along (hsafe : ∀ memory, h.locks memory = false) (hw : w.poisoned = false) (n : Nat) :
    (w.along h agenda n).poisoned = false := by
  induction n with
  | zero => exact hw
  | succ n ih =>
    rw [along]
    generalize w.along h agenda n = v at ih ⊢
    cases (agenda n).2 with
    | deed d => exact ih
    | tell => exact ih
    | act =>
      simp only [FrailCourse.move, act]
      split
      · exact ih
      · split
        · simp only [ih, hsafe, Bool.or_false]
        · split <;> exact ih
        · exact ih
    | hear =>
      simp only [FrailCourse.move, hear]
      split
      · split <;> exact ih
      · exact ih

/-- A callback that has panicked or does so now has panicked then. -/
theorem panicked_act (hw : w.Sound) (hpanics : (w.panicked || w.dispatcher.breaks) = true) (now : Nat) :
    (w.act h now).panicked = true := by
  cases hpanicked : w.panicked with
  | true => simp only [act, hpanicked, Bool.true_or, if_true]
  | false =>
    rw [hpanicked, Bool.false_or] at hpanics
    obtain ⟨e, memory, hcall⟩ := Dispatcher.calling_of_breaks hpanics
    rw [act_of_breaks hw hpanicked hcall]

theorem sound_along (hw : w.Sound) (hlock : ∀ n, (w.along h agenda n).poisoned = false) (n : Nat) :
    (w.along h agenda n).Sound := by
  induction n with
  | zero => exact hw
  | succ n ih => exact (ih.move h _ _ (hlock (n + 1))).2

/-- A callback panics, and not under the lock. -/
theorem along_succ_of_panic {n : Nat} (hw : (w.along h agenda n).Sound)
    (hcalm : (w.along h agenda n).panicked = false) {e : Event} {memory : μ}
    (hcall : (w.along h agenda n).dispatcher = .calling e (.panic memory)) (hact : (agenda n).2 = .act)
    (hlock : (w.along h agenda (n + 1)).poisoned = false) :
    w.along h agenda (n + 1) = { w.along h agenda n with panicked := true } := by
  have hnext : w.along h agenda (n + 1) = (w.along h agenda n).act h (agenda n).1 := by
    simp only [along, hact, move]
  rw [hnext] at hlock ⊢
  exact act_of_safe hw hcalm hcall hlock

/-- The dispatcher hears of a panic, and the callback ends as in an ordinary course. -/
theorem along_succ_of_hear {n : Nat} (hw : (w.along h agenda n).Sound)
    (hpanicked : (w.along h agenda n).panicked = true) (hhear : (agenda n).2 = .hear) :
    w.along h agenda (n + 1) = { w.along h agenda n with
      toCourse := (w.along h agenda n).toCourse.act (agenda n).1
      panicked := false } := by
  simp only [along, hhear, move]
  exact hear_of_panicked hw hpanicked _

/-- A callback that has panicked waits for the dispatcher, whatever else goes on. -/
theorem panicked_move (w : FrailCourse μ ε) (h : FrailHandler μ ε) (now : Nat) {m : FrailMove} (hm : m ≠ .hear)
    {e : Event} {script : Script μ ε} (hw : w.panicked = true ∧ w.dispatcher = .calling e script) :
    (w.move h now m).panicked = true ∧ (w.move h now m).dispatcher = .calling e script := by
  obtain ⟨hpanicked, hcall⟩ := hw
  cases m with
  | deed d =>
    refine ⟨hpanicked, ?_⟩
    simp only [FrailCourse.move, perform]
    split <;> exact hcall
  | tell =>
    refine ⟨hpanicked, ?_⟩
    simp only [FrailCourse.move, Course.tell, hcall]
  | act => simpa only [FrailCourse.move, act, hpanicked, Bool.true_or, if_true, true_and] using hcall
  | hear => exact absurd rfl hm

/-- A dispatcher that goes on hears of a panic. -/
theorem exists_hear (hserves : agenda.Serves) {n : Nat} {e : Event} {script : Script μ ε}
    (hn : (w.along h agenda n).panicked = true ∧ (w.along h agenda n).dispatcher = .calling e script) :
    ∃ k ≥ n, (agenda k).2 = .hear ∧
      (w.along h agenda k).panicked = true ∧ (w.along h agenda k).dispatcher = .calling e script :=
  exists_stop (fun _ _ hk hp => panicked_move _ h _ hk hp) (hserves n).2.2 hn

/-- An ordinary course goes along, and its dispatcher goes on if this one does. -/
theorem exists_agenda (hw : w.Sound) (hlock : ∀ n, (w.along h agenda n).poisoned = false) :
    ∃ agenda' : Agenda, (∀ n, (w.along h agenda n).toCourse = w.toCourse.along h.toHandler agenda' n) ∧
      (∀ n d, (agenda' n).2 = .deed d → (agenda n).2 = .deed d) ∧ (agenda.Serves → agenda'.Serves) := by
  have hsound := sound_along hw hlock
  refine ⟨fun n => ((agenda n).1, (w.along h agenda n).plain (agenda n).2), fun n => ?_, fun n d hd => ?_,
    fun hserves n => ⟨?_, ?_⟩⟩
  · induction n with
    | zero => rfl
    | succ n ih =>
      rw [Course.along, ← ih]
      exact ((hsound n).move h _ _ (hlock (n + 1))).1
  · exact deed_of_plain hd
  · obtain ⟨k, hk, htell⟩ := (hserves n).1
    exact ⟨k, hk, by simp only [htell, plain]⟩
  · -- A callback that acts acts, but if it has panicked or does so now the dispatcher is to hear of it.
    obtain ⟨k, hk, hact⟩ := (hserves n).2.1
    cases hpanics : (w.along h agenda k).panicked || (w.along h agenda k).dispatcher.breaks with
    | false => exact ⟨k, hk, by simp only [hact, plain, hpanics, Bool.false_eq_true, if_false]⟩
    | true =>
      have hpanicked : (w.along h agenda (k + 1)).panicked = true := by
        rw [along, hact]
        exact panicked_act (hsound k) hpanics _
      obtain ⟨e, memory, hcall⟩ := Dispatcher.calling_of_breaks ((hsound (k + 1)).panicked hpanicked)
      obtain ⟨j, hj, hhear, hpanicked', -⟩ := exists_hear hserves ⟨hpanicked, hcall⟩
      exact ⟨j, by omega, by simp only [hhear, plain, hpanicked', if_true]⟩

end FrailCourse

end SessionEngine
