import SessionEngine.Demo.Handlers
import SessionEngine.Proofs.Course

/-! What the handler of a session is told, against what was fired. `Traced` holds at the start and is
kept by every move, whatever the handler does. Together with what the queue records of the firings it
says that the handler has been told of the accepted events in the order in which they were accepted,
and that those it has not been told of wait in the queue. -/

namespace SessionEngine

variable {ε : Type}

namespace Course

open EventQueue

/-- The handler was told of the event whose callback is at work, and of the disconnect before the
dispatcher ends. -/
structure Heard (c : Course μ ε) : Prop where
  calls : ∀ e script, c.dispatcher = .calling e script → e ∈ c.told
  ends : ∀ memory, c.dispatcher = .over memory → .disconnect ∈ c.told

theorem heard_start (s : Session ε) (memory : μ) : (start s memory).Heard := by
  refine ⟨fun e script h => ?_, fun memory h => ?_⟩
  · cases h
  · cases h

theorem Heard.tell {c : Course μ ε} (hc : c.Heard) (h : Handler μ ε) : (c.tell h).Heard := by
  unfold Course.tell
  split
  next memory e events _ hpop =>
    refine ⟨fun e' script hcall => ?_, fun memory' hover => ?_⟩
    · cases hcall
      exact List.mem_append_right _ (List.mem_singleton.mpr rfl)
    · cases hover
  · exact hc

/-- A session that is not open has fired its disconnect. -/
structure Traced (c : Course μ ε) : Prop extends c.Heard where
  closes : c.session.stage.isOpen = true ∨ .disconnect ∈ c.fired

theorem traced_start {s : Session ε} (hopen : s.stage.isOpen = true) (memory : μ) :
    (start s memory).Traced :=
  ⟨heard_start s memory, .inl hopen⟩

theorem Traced.tell {c : Course μ ε} (hc : c.Traced) (h : Handler μ ε) : (c.tell h).Traced := by
  refine ⟨hc.toHeard.tell h, ?_⟩
  unfold Course.tell
  split <;> exact hc.closes

end Course

variable [Tls.RecordEngine ε]

/-- An open session stays open until its disconnect is fired. -/
theorem Session.isOpen_perform {s : Session ε} (h : s.stage.isOpen = true) (now : Nat) (d : Deed) :
    (s.perform now d).stage.isOpen = true ∨ .disconnect ∈ s.fires now d := by
  rcases stage_perform s now d with hstage | rfl | rfl
  · left
    rw [hstage]
    exact h
  · left
    simp only [perform, advance]
    split
    · rfl
    · exact h
  · right
    rw [fires, if_pos h]
    exact List.mem_singleton.mpr rfl

namespace Course

open EventQueue

/-- The callback for an event leaves the dispatcher at work for it, or done with it. -/
theorem following_cases (now : Nat) (e : Event) (s : Session ε) (script : Script μ ε) :
    (∃ rest, script.following now e s = .calling e rest) ∨
      ∃ memory, script.following now e s = .after e memory := by
  cases script with
  | done memory reply => exact .inr ⟨memory, rfl⟩
  | panic memory => exact .inr ⟨memory, rfl⟩
  | send data next => exact .inl ⟨_, rfl⟩
  | close next => exact .inl ⟨_, rfl⟩
  | attach ping pong next => exact .inl ⟨_, rfl⟩
  | beat slot next => exact .inl ⟨_, rfl⟩
  | inspect next => exact .inl ⟨_, rfl⟩

theorem Heard.act {c : Course μ ε} (h : c.Heard) (now : Nat) : (c.act now).Heard := by
  unfold Course.act
  split
  next e script hcall =>
    have htold : e ∈ (c.performAll now (script.deeds e c.session)).told := by
      rw [told_performAll]
      exact h.calls e script hcall
    constructor <;>
      rcases following_cases now e c.session script with ⟨rest, hf⟩ | ⟨memory, hf⟩ <;> rw [hf]
    · intro e' script' heq
      cases heq
      exact htold
    · intro e' script' heq
      exact absurd heq Dispatcher.after_ne_calling
    · intro memory heq
      cases heq
    · intro memory' heq
      exact Dispatcher.eq_disconnect_of_after heq ▸ htold
  · exact h

theorem Heard.move {c : Course μ ε} (hc : c.Heard) (h : Handler μ ε) (now : Nat) (m : Move) :
    (c.move h now m).Heard := by
  cases m with
  | deed d => exact ⟨hc.calls, hc.ends⟩
  | tell => exact hc.tell h
  | act => exact hc.act now

theorem Traced.perform {c : Course μ ε} (h : c.Traced) (now : Nat) (d : Deed) :
    (c.perform now d).Traced := by
  refine ⟨⟨h.calls, h.ends⟩, ?_⟩
  rcases h.closes with hopen | hfired
  · rcases Session.isOpen_perform hopen now d with hopen' | hfired
    · exact .inl hopen'
    · exact .inr (List.mem_append_right _ hfired)
  · exact .inr (List.mem_append_left _ hfired)

theorem Traced.performAll {c : Course μ ε} (h : c.Traced) (now : Nat) (deeds : List Deed) :
    (c.performAll now deeds).Traced := by
  induction deeds generalizing c with
  | nil => exact h
  | cons d deeds ih => exact ih (h.perform now d)

theorem Traced.act {c : Course μ ε} (h : c.Traced) (now : Nat) : (c.act now).Traced := by
  refine ⟨h.toHeard.act now, ?_⟩
  unfold Course.act
  split
  next e script _ => exact (h.performAll now (script.deeds e c.session)).closes
  · exact h.closes

theorem Traced.move {c : Course μ ε} (hc : c.Traced) (h : Handler μ ε) (now : Nat) (m : Move) :
    (c.move h now m).Traced := by
  cases m with
  | deed d => exact hc.perform now d
  | tell => exact hc.tell h
  | act => exact hc.act now

/-- The trace holds at every moment of a course. -/
theorem Traced.run {c : Course μ ε} (hc : c.Traced) (h : Handler μ ε) (moves : List (Nat × Move)) :
    (c.run h moves).Traced := by
  induction moves generalizing c with
  | nil => exact hc
  | cons m moves ih => exact ih (hc.move h m.1 m.2)

end Course

/-- The handler of a session is told of the accepted events, in the order in which they were
accepted: at every moment of every course it has been told of a head of them, and the rest waits; at
most one of them is a connect, at most one a disconnect, and none follows the disconnect. When the
session is closed and nothing waits, it has been told of all, the disconnect last and only once; and
the dispatcher does not end before. -/
theorem told_accepted (h : Handler μ ε) {s : Session ε} (hqueue : s.events = .empty)
    (hopen : s.stage.isOpen = true) (memory : μ) (moves : List (Nat × Move)) :
    let c := (Course.start s memory).run h moves
    let accepted := EventQueue.accepted c.fired
    c.told <+: accepted ∧ c.told ++ c.session.events.pending = accepted ∧
      accepted.count .connect ≤ 1 ∧ accepted.count .disconnect ≤ 1 ∧
      (∀ before after, accepted = before ++ .disconnect :: after → after = []) ∧
      (∀ memory', c.dispatcher = .over memory' → c.session.events.pending = []) ∧
      (c.session.stage.isOpen = false → c.session.events.pending = [] →
        c.told = accepted ∧ ∃ before, c.told = before ++ [.disconnect] ∧ .disconnect ∉ before) := by
  intro c accepted
  have hc : c.Traced := (Course.traced_start hopen memory).run h moves
  have hqueued : c.told ++ c.session.events.pending = accepted := by
    have hreplays := Course.replays_run h s memory moves
    rw [Course.Replays, hqueue] at hreplays
    exact (congrArg EventQueue.pending hreplays).symm.trans (EventQueue.records_foldl c.fired).pending
  refine ⟨⟨_, hqueued⟩, hqueued, EventQueue.count_accepted_le_one _ (.inl rfl),
    EventQueue.count_accepted_le_one _ (.inr rfl), fun before after => EventQueue.accepted_ends,
    fun memory' hover => ?_, fun hclosed hdrained => ?_⟩
  · -- The handler was told of the disconnect, and nothing is accepted behind it.
    obtain ⟨before, after, htold⟩ := List.append_of_mem (hc.ends memory' hover)
    rw [htold, List.append_assoc, List.cons_append] at hqueued
    exact (List.append_eq_nil_iff.mp (EventQueue.accepted_ends hqueued.symm)).2
  · have htold : c.told = accepted := by
      rw [hdrained, List.append_nil] at hqueued
      exact hqueued
    have hfired : .disconnect ∈ c.fired := hc.closes.resolve_left (by simp [hclosed])
    obtain ⟨before, hbefore, honce⟩ := EventQueue.accepted_eq_concat_disconnect hfired
    exact ⟨htold, before, htold.trans hbefore, honce⟩

/-- Two lines come in while the demo's server still greets its peer; the session is closed before the
second one is answered. -/
theorem told_accepted_echo :
    let s : Session Empty := .new 0 { Settings.server "localhost" 6380 with handled := true } .line
    let c := (Course.start s ()).run Demo.echo ([.deed .installWriter, .deed .establish,
      .deed (.fire .connect), .tell, .deed (.feed [104, 10, 105, 10]), .act, .deed .dispatch, .act,
      .tell, .deed .close, .act, .deed (.fire .idle), .tell, .act, .tell, .act].map (0, ·))
    (s.events = .empty ∧ s.stage.isOpen = true) ∧
      c.told = [.connect, .receive [104, 10], .receive [105, 10], .disconnect] := by
  intro s c
  have hempty : s.events = .empty := rfl
  have hopen : s.stage.isOpen = true := rfl
  obtain ⟨-, -, -, -, -, -, hend⟩ := told_accepted Demo.echo hempty hopen ()
    ([.deed .installWriter, .deed .establish, .deed (.fire .connect), .tell,
      .deed (.feed [104, 10, 105, 10]), .act, .deed .dispatch, .act, .tell, .deed .close, .act,
      .deed (.fire .idle), .tell, .act, .tell, .act].map (0, ·))
  have htold := (hend (by decide +kernel) (by decide +kernel)).1
  exact ⟨⟨hempty, hopen⟩, htold.trans (by decide +kernel)⟩

end SessionEngine
