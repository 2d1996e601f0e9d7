import SessionEngine.Proofs.Course.Frail
import SessionEngine.Proofs.Course.Passing
import SessionEngine.Proofs.Lifecycle

/-! Callbacks that panic. A panic comes to one operation, which leaves a session as it is behind the
disconnect (`act_of_panic`, `fire_of_closed`); and as long as each disconnect comes from a close, every
event in the queue is called for once, and once only (`existsUnique_calls`). `panics_contained` puts the two
together. -/

namespace SessionEngine

variable {ε : Type}

namespace Session

theorem Agrees.fire_of_closed {s : Session ε} (hs : s.Agrees) (hclosed : s.stage = .closed) (error : Error) :
    s.fire (.exception error) = s := by
  have hlatch : s.events.disconnected = true := hs.queue.mpr hclosed
  simp only [fire, EventQueue.push, hlatch, if_true]

variable [Tls.RecordEngine ε]

theorem close_of_closed {s : Session ε} (hclosed : s.stage = .closed) : s.close.2 = s := by
  simp [close, hclosed, Stage.isOpen]

end Session

namespace Course

variable {c : Course μ ε} {h : Handler μ ε} {agenda : Agenda} {n k i : Nat} {e : Event}

/-- The session was new once, its disconnect comes from a close, and the handler hears of what was fired. -/
structure Orderly (c : Course μ ε) : Prop where
  agrees : c.session.Agrees
  traced : c.Traced
  replays : c.Replays .empty

theorem orderly_start {s : Session ε} (hfresh : s.Fresh) (memory : μ) : (start s memory).Orderly :=
  ⟨hfresh.agrees, traced_start hfresh.stage memory, hfresh.events.symm⟩

theorem Orderly.disconnected_iff (hc : c.Orderly) :
    c.session.stage = .closed ↔ .disconnect ∈ c.queued := by
  rw [hc.replays.disconnect_mem_queued_iff, hc.agrees.queue]

/-- The disconnect of a closed session is the last event in its queue, and the only one. -/
theorem Orderly.queued_of_closed (hc : c.Orderly) (hclosed : c.session.stage = .closed) :
    ∃ before, c.queued = before ++ [.disconnect] ∧ .disconnect ∉ before := by
  rw [hc.replays.queued, (EventQueue.records_foldl c.fired).pending]
  refine EventQueue.accepted_eq_concat_disconnect (hc.traced.closes.resolve_left ?_)
  rw [hclosed]
  decide

/-- A dispatcher is not over before the handler was told of everything. -/
theorem Orderly.told_of_over (hc : c.Orderly) (hover : c.dispatcher.isOver = true) : c.told = c.queued := by
  rw [(hc.traced.told_of_over hc.replays hover).1, hc.replays.queued,
    (EventQueue.records_foldl c.fired).pending]

/-- With this move the dispatcher calls the handler for an event, the one in the place `i` of the queue. -/
def Calls (h : Handler μ ε) (c c' : Course μ ε) (i : Nat) (e : Event) : Prop :=
  c.told.length = i ∧ c'.told = c.told ++ [e] ∧
    ∃ memory, c.dispatcher = .waiting memory ∧ c'.dispatcher = .calling e (h.respond memory e)

theorem Calls.queued {c' : Course μ ε} (hcalls : Calls h c c' i e) : c'.queued[i]? = some e := by
  obtain ⟨rfl, htold, -⟩ := hcalls
  rw [Course.queued, htold, List.append_assoc, List.getElem?_append_right (Nat.le_refl _), Nat.sub_self]
  rfl

variable [Tls.RecordEngine ε]

theorem Orderly.move (hc : c.Orderly) (h : Handler μ ε) (now : Nat) {m : Move}
    (hm : m ≠ .deed (.fire .disconnect)) : (c.move h now m).Orderly := by
  refine ⟨agrees_move hc.agrees h now fun d hd => ?_, hc.traced.move h now m, hc.replays.move h now m⟩
  rintro rfl
  cases m with
  | deed d => exact hm (congrArg Move.deed (Option.some.inj hd))
  | tell | act => cases hd

theorem Orderly.along (hc : c.Orderly) (h : Handler μ ε)
    (howner : ∀ n, (agenda n).2 ≠ .deed (.fire .disconnect)) (n : Nat) :
    (c.along h agenda n).Orderly :=
  along_keeps (n := 0) (fun k _ hk => hk.move h _ (howner k)) hc (Nat.zero_le n)

/-! ### Every event once -/

theorem told_move_cases (c : Course μ ε) (h : Handler μ ε) (now : Nat) (m : Move) :
    (c.move h now m).told = c.told ∨ ∃ e, Calls h c (c.move h now m) c.told.length e := by
  cases m with
  | deed d => exact .inl rfl
  | tell =>
    simp only [move, tell]
    split
    next memory e events hwaiting _ => exact .inr ⟨e, rfl, rfl, memory, hwaiting, rfl⟩
    · exact .inl rfl
  | act => exact .inl (c.told_act now)

/-- An event keeps its place. -/
theorem getElem?_queued_along (hk : n ≤ k) (hi : (c.along h agenda n).queued[i]? = some e) :
    (c.along h agenda k).queued[i]? = some e := by
  obtain ⟨more, hmore⟩ := c.queued_prefix_along h agenda hk
  rw [← hmore, List.getElem?_append_left (List.getElem?_eq_some_iff.mp hi).1, hi]

/-- An event is not called for before its turn. -/
theorem Calls.le (hcalls : Calls h (c.along h agenda k) (c.along h agenda (k + 1)) i e)
    (hi : (c.along h agenda n).told.length ≤ i) : n ≤ k := by
  by_contra hlt
  obtain ⟨hplace, htold, -⟩ := hcalls
  have hlater := (c.extends_along h agenda (Nat.succ_le_of_lt (Nat.lt_of_not_le hlt))).told.length_le
  rw [htold, List.length_append, hplace] at hlater
  exact Nat.not_succ_le_self i (Nat.le_trans hlater hi)

/-- What the handler was told of in the meantime was called for by one of the moves. -/
theorem exists_calls (hnone : c.told = []) (hk : i < (c.along h agenda k).told.length) :
    ∃ j e, j < k ∧ Calls h (c.along h agenda j) (c.along h agenda (j + 1)) i e := by
  induction k with
  | zero =>
    rw [along, hnone] at hk
    exact absurd hk (Nat.not_lt_zero i)
  | succ k ih =>
    by_cases hbefore : i < (c.along h agenda k).told.length
    · obtain ⟨j, e, hj, hcalls⟩ := ih hbefore
      exact ⟨j, e, Nat.lt_succ_of_lt hj, hcalls⟩
    · rcases (c.along h agenda k).told_move_cases h (agenda k).1 (agenda k).2 with hsame | ⟨e, hcalls⟩
      · rw [along, hsame] at hk
        exact absurd hk hbefore
      · have hlast : (c.along h agenda k).told.length = i := by
          rw [along, hcalls.2.1, List.length_append, List.length_singleton] at hk
          omega
        rw [hlast] at hcalls
        exact ⟨k, e, Nat.lt_succ_self k, hcalls⟩

/-- Where the dispatcher goes on, each event in the queue is called for by one of the moves, and by no
other. -/
theorem existsUnique_calls (hserves : agenda.Serves) (hnone : c.told = [])
    (hc : ∀ n, (c.along h agenda n).Orderly) (hi : (c.along h agenda n).queued[i]? = some e) :
    ∃! k, Calls h (c.along h agenda k) (c.along h agenda (k + 1)) i e := by
  have hlength := (List.getElem?_eq_some_iff.mp hi).1
  obtain ⟨k, hk, hheard⟩ := told_of_serves hserves c h hlength
  have htold : i < (c.along h agenda k).told.length := by
    rcases hheard with htold | hover
    · exact htold
    · rw [(hc k).told_of_over hover]
      exact Nat.lt_of_lt_of_le hlength (c.queued_prefix_along h agenda hk).length_le
  obtain ⟨j, e', hj, hcalls⟩ := exists_calls hnone htold
  obtain rfl : e = e' := by
    have hplace := getElem?_queued_along hk hi
    rw [getElem?_queued_along (Nat.succ_le_of_lt hj) hcalls.queued] at hplace
    exact (Option.some.inj hplace).symm
  refine ⟨j, hcalls, fun j' hcalls' => Nat.le_antisymm ?_ ?_⟩
  · exact hcalls.le (Nat.le_of_eq hcalls'.1)
  · exact hcalls'.le (Nat.le_of_eq hcalls.1)

/-! ### Closed sessions -/

/-- Nothing is queued any more. -/
theorem queued_along_of_closed (hc : ∀ n, (c.along h agenda n).Orderly)
    (hclosed : (c.along h agenda n).session.stage = .closed) (hk : n ≤ k) :
    (c.along h agenda k).queued = (c.along h agenda n).queued := by
  refine along_keeps (P := fun c' => c'.queued = (c.along h agenda n).queued) (fun k _ hsame => ?_) rfl hk
  have hlatch : (c.along h agenda k).session.events.disconnected = true := by
    rw [(hc k).agrees.queue, (hc k).disconnected_iff, hsame]
    exact (hc n).disconnected_iff.mp hclosed
  exact (queued_run_of_disconnected h [agenda k] hlatch).trans hsame

/-- Where the dispatcher goes on, the handler comes to be told of all that is queued. -/
theorem told_along_of_closed (hserves : agenda.Serves) (hc : ∀ n, (c.along h agenda n).Orderly)
    (hclosed : (c.along h agenda n).session.stage = .closed) :
    ∃ k ≥ n, ∀ j ≥ k, (c.along h agenda j).told = (c.along h agenda n).queued := by
  obtain ⟨before, hqueued, -⟩ := (hc n).queued_of_closed hclosed
  have hlength : (c.along h agenda n).queued.length = before.length + 1 := by
    rw [hqueued, List.length_append, List.length_singleton]
  obtain ⟨k, hk, hheard⟩ := told_of_serves hserves c h (n := n) (i := before.length) (by omega)
  refine ⟨k, hk, fun j hj => ?_⟩
  have hsame := queued_along_of_closed hc hclosed (Nat.le_trans hk hj)
  have hall : (c.along h agenda n).queued.length ≤ (c.along h agenda k).told.length := by
    rcases hheard with htold | hover
    · rw [hlength]
      exact htold
    · have hsame := queued_along_of_closed hc hclosed hk
      exact Nat.le_of_eq (by rw [(hc k).told_of_over hover, hsame])
  have htold := (c.along h agenda j).told_prefix_queued
  rw [hsame] at htold
  refine htold.eq_of_length_le (Nat.le_trans hall ?_)
  exact (c.extends_along h agenda hj).told.length_le

/-! ### Panics -/

/-- A callback that panics comes to one operation: it closes the session if it was the one for exceptions,
and is an exception itself if not. -/
theorem act_of_panic {memory : μ} (hcall : c.dispatcher = .calling e (.panic memory)) (now : Nat) :
    (c.act now).session = (if e.callback = .onException then c.session.close.2
        else c.session.fire (.exception (.handlerPanic e.callback))) ∧
      (c.act now).dispatcher = .after e memory ∧ (c.act now).told = c.told := by
  refine ⟨?_, by rw [act_of_calling hcall]; rfl, c.told_act now⟩
  rw [act_of_calling hcall]
  simp only [session_performAll, Script.deeds, List.foldl_cons, List.foldl_nil]
  split <;> rfl

/-- Once the disconnect is queued, a panic changes nothing in the session. -/
theorem Orderly.session_act_of_panic (hc : c.Orderly) {memory : μ}
    (hcall : c.dispatcher = .calling e (.panic memory)) (hlast : .disconnect ∈ c.queued) (now : Nat) :
    (c.act now).session = c.session := by
  have hclosed := hc.disconnected_iff.mpr hlast
  rw [(act_of_panic hcall now).1, Session.close_of_closed hclosed, hc.agrees.fire_of_closed hclosed, ite_self]

/-- Before that, an exception goes to the end of the queue, unless it is the callback for exceptions that
panics. -/
theorem Orderly.queued_act_of_panic (hc : c.Orderly) {memory : μ}
    (hcall : c.dispatcher = .calling e (.panic memory)) (hother : e.callback ≠ .onException)
    (hfirst : .disconnect ∉ c.queued) (now : Nat) :
    (c.act now).session = c.session.fire (.exception (.handlerPanic e.callback)) ∧
      (c.act now).queued = c.queued ++ [.exception (.handlerPanic e.callback)] := by
  obtain ⟨hsession, -, htold⟩ := act_of_panic hcall now
  rw [if_neg hother] at hsession
  have hlatch : c.session.events.disconnected = false := by
    rw [Bool.eq_false_iff, ne_eq, hc.agrees.queue, hc.disconnected_iff]
    exact hfirst
  have hevents : (c.act now).session.events =
      c.session.events.push (.exception (.handlerPanic e.callback)) := by
    rw [hsession]
    rfl
  refine ⟨hsession, ?_⟩
  rw [queued, queued, htold, hevents, EventQueue.pending_push, hlatch, List.append_assoc]
  rfl

end Course

variable [Tls.RecordEngine ε]

/-- A course in which every disconnect comes from a close, and no panic under the lock, goes along with
an ordinary one. -/
theorem FrailCourse.exists_orderly (h : FrailHandler μ ε) {s : Session ε} (hfresh : s.Fresh) (memory : μ)
    {agenda : FrailAgenda} (howner : ∀ n, (agenda n).2 ≠ .deed (.fire .disconnect))
    (hlock : ∀ n, ((start s memory).along h agenda n).poisoned = false) : ∃ agenda' : Agenda,
      (∀ n, ((start s memory).along h agenda n).toCourse =
        (Course.start s memory).along h.toHandler agenda' n) ∧
      (∀ n, ((Course.start s memory).along h.toHandler agenda' n).Orderly) ∧
      (agenda.Serves → agenda'.Serves) := by
  obtain ⟨agenda', hcourse, hdeed, hserves⟩ := exists_agenda (w := start s memory) ⟨rfl, rfl, nofun⟩ hlock
  exact ⟨agenda', hcourse, (Course.orderly_start hfresh memory).along h.toHandler
    fun n hfire => howner n (hdeed n _ hfire), hserves⟩

/-- What comes of callbacks that panic, in whatever pattern and whatever they did before, in every course
in which a disconnect comes from a close and no callback panics under the lock of the read buffer.
Between a panic and the dispatcher that hears of it others may move; the panic itself changes nothing,
and the dispatcher comes to hear of it. That ends the callback, and nothing is sent any more on its
behalf. If the disconnect is not queued by then, one exception is fired with the name of the callback,
which the handler is told of once and later; in the callback for exceptions the session is closed
instead; and if it is queued, nothing happens. The dispatcher goes on: each event that is queued is
called for by one move, and by no other. Once the session is closed, its disconnect is the last event in
the queue and the only one, nothing is queued behind it, and the handler comes to be told of everything
up to it. -/
theorem panics_contained (h : FrailHandler μ ε) {s : Session ε} (hfresh : s.Fresh) (memory : μ)
    {agenda : FrailAgenda} (howner : ∀ n, (agenda n).2 ≠ .deed (.fire .disconnect))
    (hlock : ∀ n, ((FrailCourse.start s memory).along h agenda n).poisoned = false) :
    let w := (FrailCourse.start s memory).along h agenda
    (∀ n e memory', (w n).dispatcher = .calling e (.panic memory') → (w n).panicked = false →
      (agenda n).2 = .act → w (n + 1) = { w n with panicked := true } ∧
      (agenda.Serves → ∃ k > n, (agenda k).2 = .hear ∧ (w k).panicked = true ∧
        (w k).dispatcher = .calling e (.panic memory'))) ∧
    (∀ n e memory', (w n).dispatcher = .calling e (.panic memory') → (w n).panicked = true →
      (agenda n).2 = .hear →
      (w (n + 1)).dispatcher = .after e memory' ∧ (w (n + 1)).panicked = false ∧
      (.disconnect ∈ (w n).queued → (w (n + 1)).session = (w n).session) ∧
      (.disconnect ∉ (w n).queued → e.callback = .onException →
        (w (n + 1)).session = (w n).session.close.2 ∧ (w (n + 1)).session.stage = .closed) ∧
      (.disconnect ∉ (w n).queued → e.callback ≠ .onException →
        let alarm : Event := .exception (.handlerPanic e.callback)
        (w (n + 1)).session = (w n).session.fire alarm ∧
        (w (n + 1)).session.writer = (w n).session.writer ∧
        (w (n + 1)).queued = (w n).queued ++ [alarm] ∧
        (agenda.Serves → ∃! k, n < k ∧
          Course.Calls h.toHandler (w k).toCourse (w (k + 1)).toCourse (w n).queued.length alarm))) ∧
    (agenda.Serves → ∀ n i e, (w n).queued[i]? = some e →
      ∃! k, Course.Calls h.toHandler (w k).toCourse (w (k + 1)).toCourse i e) ∧
    ∀ n, (w n).session.stage = .closed →
      (∃ before, (w n).queued = before ++ [.disconnect] ∧ .disconnect ∉ before) ∧
      (∀ k ≥ n, (w k).queued = (w n).queued) ∧
      (agenda.Serves → ∃ k ≥ n, ∀ j ≥ k, (w j).told = (w n).queued) := by
  intro w
  have hsound : ∀ n, (w n).Sound := FrailCourse.sound_along ⟨rfl, rfl, nofun⟩ hlock
  obtain ⟨agenda', hcourse, hc, hserves'⟩ := FrailCourse.exists_orderly h hfresh memory howner hlock
  replace hcourse : ∀ n, (w n).toCourse = (Course.start s memory).along h.toHandler agenda' n := hcourse
  have hcalls : agenda.Serves → ∀ n i e, (w n).queued[i]? = some e →
      ∃! k, Course.Calls h.toHandler (w k).toCourse (w (k + 1)).toCourse i e := by
    intro hserves n i e hi
    simp only [hcourse] at hi ⊢
    exact Course.existsUnique_calls (hserves' hserves) rfl hc hi
  refine ⟨fun n e memory' hcall hcalm hact => ?_, fun n e memory' hcall hpanicked hhear => ?_, hcalls,
    fun n hclosed => ?_⟩
  · have hsame : w (n + 1) = { w n with panicked := true } :=
      FrailCourse.along_succ_of_panic (hsound n) hcalm hcall hact (hlock (n + 1))
    refine ⟨hsame, fun hserves => ?_⟩
    have hpanicked : (w (n + 1)).panicked = true ∧ (w (n + 1)).dispatcher = .calling e (.panic memory') := by
      rw [hsame]
      exact ⟨rfl, hcall⟩
    exact FrailCourse.exists_hear hserves hpanicked
  · have hnext : w (n + 1) = { w n with toCourse := (w n).toCourse.act (agenda n).1, panicked := false } :=
      FrailCourse.along_succ_of_hear (hsound n) hpanicked hhear
    obtain ⟨hsession, hafter, htold⟩ := Course.act_of_panic hcall (agenda n).1
    have hn : (w n).Orderly := hcourse n ▸ hc n
    rw [hnext]
    refine ⟨hafter, rfl, fun hlast => ?_, fun hfirst hexception => ?_, fun hfirst hother => ?_⟩
    · exact hn.session_act_of_panic hcall hlast _
    · rw [hsession, if_pos hexception]
      exact ⟨rfl, hn.agrees.close.2⟩
    · intro alarm
      obtain ⟨hfired, hqueued⟩ := hn.queued_act_of_panic hcall hother hfirst (agenda n).1
      refine ⟨hfired, by rw [hfired]; rfl, hqueued, fun hserves => ?_⟩
      have hplace : (w (n + 1)).queued[(w n).queued.length]? = some alarm := by
        rw [hnext, hqueued, List.getElem?_concat_length]
      obtain ⟨k, hk, hunique⟩ := hcalls hserves _ _ _ hplace
      refine ⟨k, ⟨?_, hk⟩, fun k' hk' => hunique k' hk'.2⟩
      have htold' : (w (n + 1)).told.length ≤ (w n).queued.length := by
        rw [hnext, htold]
        exact (w n).told_prefix_queued.length_le
      simp only [hcourse] at hk htold'
      exact hk.le htold'
  · simp only [hcourse] at hclosed ⊢
    exact ⟨(hc n).queued_of_closed hclosed, fun k hk => Course.queued_along_of_closed hc hclosed hk,
      fun hserves => Course.told_along_of_closed (hserves' hserves) hc hclosed⟩

/-- Three callbacks panic: the first one after it has sent, the one for the exception that this is, and the
last one. -/
theorem panics_contained_thrice :
    let h : FrailHandler Unit Empty :=
      { respond := fun _ e => match e with
          | .connect => .send [104, 105] fun _ => .panic ()
          | .exception _ | .disconnect => .panic ()
          | _ => .nothing ()
        locks := fun _ => false
        broken := fun _ => () }
    let s : Session Empty := .new 0 { Settings.server "localhost" 6380 with handled := true } .line
    let agenda : FrailAgenda := FrailAgenda.turning
      [.deed .installWriter, .deed .establish, .deed (.fire .connect), .tell, .act, .act, .hear]
    let w := (FrailCourse.start s ()).along h agenda
    (s.Fresh ∧ (∀ n, (agenda n).2 ≠ .deed (.fire .disconnect)) ∧ (∀ n, (w n).poisoned = false) ∧
        agenda.Serves) ∧
      (∃! k, 6 < k ∧ Course.Calls h.toHandler (w k).toCourse (w (k + 1)).toCourse 2
        (.exception (.handlerPanic .onConnect))) ∧
      (w 15).session.stage = .closed ∧
      ∃ k ≥ 15, ∀ j ≥ k, (w j).told =
        [.connect, .sent [104, 105], .exception (.handlerPanic .onConnect), .disconnect] := by
  intro h s agenda w
  have hfresh : s.Fresh := Session.fresh_new _ _ _
  have howner : ∀ n, (agenda n).2 ≠ .deed (.fire .disconnect) := FrailAgenda.turning_ne (by simp)
  have hlock : ∀ n, (w n).poisoned = false := FrailCourse.lock_along (fun _ => rfl) rfl
  have hserves : agenda.Serves := FrailAgenda.serves_turning _
  obtain ⟨-, hpanics, -, hcloses⟩ := panics_contained h hfresh () howner hlock
  have hcall : (w 6).dispatcher = .calling .connect (.panic ()) := rfl
  have hpanicked : (w 6).panicked = true := by decide +kernel
  have hplace : (w 6).queued.length = 2 := by decide +kernel
  have hclosed : ((FrailCourse.start s ()).along h agenda 15).session.stage = .closed := by decide +kernel
  obtain ⟨-, -, -, -, halarm⟩ := hpanics 6 .connect () hcall hpanicked rfl
  obtain ⟨-, -, -, honce⟩ := halarm (by decide +kernel) (by decide)
  replace honce := honce hserves
  rw [show ((FrailCourse.start s ()).along h agenda 6).queued.length = 2 from hplace] at honce
  obtain ⟨-, -, htold⟩ := hcloses 15 hclosed
  obtain ⟨k, hk, hall⟩ := htold hserves
  refine ⟨⟨hfresh, howner, hlock, hserves⟩, honce, by decide +kernel, k, hk, fun j hj => ?_⟩
  exact (hall j hj).trans (by decide +kernel)

/-! ### Panics under the lock -/

/-- The session is closing, and its disconnect was not fired. -/
structure Course.Halted (c : Course μ ε) : Prop where
  closing : .closing ≤ c.session.stage
  unfired : c.session.events.disconnected = false
  replays : c.Replays .empty

theorem Course.Halted.perform {c : Course μ ε} (hc : c.Halted) (now : Nat) {d : Deed}
    (hd : d ≠ .fire .disconnect) : (c.perform now d).Halted := by
  refine ⟨Stage.le_trans hc.closing (Session.stage_le_perform _ now d), ?_, hc.replays.perform now d⟩
  rw [Bool.eq_false_iff, ne_eq, Course.perform, Session.events_perform, EventQueue.disconnected_foldl,
    Session.disconnect_mem_fires_iff hd, Stage.isOpen_iff]
  rintro (hfired | ⟨-, hopen⟩)
  · rw [hc.unfired] at hfired
    cases hfired
  · exact hopen hc.closing

theorem Course.Halted.move {c : Course μ ε} (hc : c.Halted) (h : Handler μ ε) (now : Nat) {m : Move}
    (hm : m ≠ .deed (.fire .disconnect)) : (c.move h now m).Halted := by
  suffices hrun : (c.run h [(now, m)]).Halted from hrun
  refine run_history (fun c _ => c.Halted) (· ≠ .fire .disconnect)
    (fun now _ hd hc => hc.perform now hd) (fun hd => ?_) (fun {c' _} hc' => ?_) (fun _ hc => ?_) ?_ [] hc
  · rintro rfl
    exact hd
  · obtain ⟨-, events, htell, hlatch⟩ := c'.queued_tell h
    refine ⟨?_, ?_, hc'.replays.tell h⟩
    · rw [htell]
      exact hc'.closing
    · rw [htell]
      exact hlatch.trans hc'.unfired
  · exact ⟨hc.closing, hc.unfired, hc.replays⟩
  · intro m' hm' d hd
    obtain rfl := List.mem_singleton.mp hm'
    rintro rfl
    cases m with
    | deed d => exact hm (congrArg Move.deed (Option.some.inj hd))
    | tell | act => cases hd

/-- An operation that meets the poisoned lock fires nothing. -/
theorem Session.breakOff_of_closing {s : Session ε} (hclosing : .closing ≤ s.stage) (now : Nat) (d : Deed) :
    s.stage ≤ (s.breakOff now d).stage ∧ (s.breakOff now d).events = s.events := by
  cases d with
  | feed data =>
    exact ⟨stage_le_perform { s with buffer := { s.buffer with limit := 0, contents := [] } } now (.feed data),
      events_perform { s with buffer := { s.buffer with limit := 0, contents := [] } } now (.feed data)⟩
  | close =>
    have hended : s.stage.isOpen = false := by
      rw [Bool.eq_false_iff, ne_eq, Stage.isOpen_iff, not_not]
      exact hclosing
    simp only [breakOff, hended, Bool.false_eq_true, if_false, and_true]
    exact Stage.le_refl _
  | _ => exact ⟨Stage.le_refl _, rfl⟩

namespace FrailCourse

variable {w : FrailCourse μ ε}

theorem halted_move (hw : w.Halted) (h : FrailHandler μ ε) (now : Nat) {m : FrailMove}
    (hm : m ≠ .deed (.fire .disconnect)) : (w.move h now m).Halted := by
  have hended : w.session.stage.isOpen = false := by
    rw [Bool.eq_false_iff, ne_eq, Stage.isOpen_iff, not_not]
    exact hw.closing
  have hact : (w.toCourse.act now).Halted := hw.move h.toHandler now (m := .act) (by simp)
  cases m with
  | deed d =>
    simp only [move, FrailCourse.perform]
    split
    · obtain ⟨hstage, hevents⟩ := Session.breakOff_of_closing hw.closing now d
      refine ⟨Stage.le_trans hw.closing hstage, hevents ▸ hw.unfired, ?_⟩
      exact hw.replays.trans (congrArg (·.behind w.told) hevents).symm
    · exact hw.perform now fun hd => hm (congrArg FrailMove.deed hd)
  | tell => exact hw.move h.toHandler now (m := .tell) (by simp)
  | act =>
    simp only [move, FrailCourse.act, hended, Bool.and_false, Bool.false_eq_true, if_false]
    split
    · exact hw
    · split
      · exact hw
      · exact hact
      · exact hact
  | hear =>
    simp only [move, FrailCourse.hear, hended, Bool.and_false, Bool.false_and, Bool.false_eq_true, if_false]
    split
    · exact hact
    · exact hw

theorem halted_along {h : FrailHandler μ ε} {agenda : FrailAgenda}
    (howner : ∀ n, (agenda n).2 ≠ .deed (.fire .disconnect)) {n k : Nat} (hn : (w.along h agenda n).Halted)
    (hk : n ≤ k) : (w.along h agenda k).Halted := by
  induction hk with
  | refl => exact hn
  | step hle ih => exact halted_move ih h _ (howner _)

end FrailCourse

/-- Two panics of the callback for the connect that do not end as panics should. A close comes between
the panic and the dispatcher that hears of it: the handler is told of no exception. And the callback
panics under the lock of the read buffer: the close that comes then stops half way, and the disconnect is
never queued. -/
theorem panics_uncontained :
    let h (locks : Bool) : FrailHandler Unit Empty :=
      { respond := fun _ e => match e with
          | .connect => .panic ()
          | _ => .nothing ()
        locks := fun _ => locks
        broken := fun _ => () }
    let s : Session Empty := .new 0 { Settings.server "localhost" 6380 with handled := true } .line
    let panic : List FrailMove := [.deed .establish, .deed (.fire .connect), .tell, .act]
    let overtaken := (FrailCourse.start s ()).along (h false) (.turning (panic ++ [.deed .close, .hear]))
    let stuck := (FrailCourse.start s ()).along (h true) (.turning (panic ++ [.hear, .deed .close]))
    ((overtaken 4).panicked = true ∧ .disconnect ∉ (overtaken 4).queued ∧
        ∀ k, .exception (.handlerPanic .onConnect) ∉ (overtaken k).told) ∧
      (stuck 6).session.stage = .closing ∧ ∀ k, .disconnect ∉ (stuck k).queued := by
  intro h s panic overtaken stuck
  refine ⟨⟨by decide +kernel, by decide +kernel, fun k htold => ?_⟩, by decide +kernel, fun k => ?_⟩
  · have hfresh : s.Fresh := Session.fresh_new _ _ _
    have howner (n : Nat) :
        (FrailAgenda.turning (panic ++ [.deed .close, .hear]) n).2 ≠ .deed (.fire .disconnect) :=
      FrailAgenda.turning_ne (by simp [panic]) n
    obtain ⟨agenda, hcourse, hc, -⟩ := FrailCourse.exists_orderly (h false) hfresh () howner
      (FrailCourse.lock_along (fun _ => rfl) rfl)
    replace hcourse : ∀ n, (overtaken n).toCourse =
        (Course.start s ()).along (h false).toHandler agenda n := hcourse
    have hclosed : (overtaken 6).session.stage = .closed := by decide +kernel
    have hall : (overtaken 6).queued = [.connect, .disconnect] := by decide +kernel
    simp only [hcourse] at htold hclosed hall
    have hqueued := Course.queued_along_of_closed hc hclosed (Nat.le_max_right k 6)
    have hmem := (Course.queued_prefix_along _ _ agenda (Nat.le_max_left k 6)).subset
      ((Course.told_prefix_queued _).subset htold)
    rw [hqueued, hall] at hmem
    simp at hmem
  · by_cases hk : 6 ≤ k
    · have hstuck : (stuck 6).Halted := ⟨by decide +kernel, by decide +kernel, rfl⟩
      have hlater : (stuck k).Halted :=
        FrailCourse.halted_along (FrailAgenda.turning_ne (by simp [panic])) hstuck hk
      rw [hlater.replays.disconnect_mem_queued_iff, hlater.unfired]
      exact Bool.false_ne_true
    · have hbefore : ∀ k < 6, .disconnect ∉ (stuck k).queued := by decide +kernel
      exact hbefore k (Nat.lt_of_not_le hk)

end SessionEngine
