import SessionEngine.Proofs.Session.Deed

/-! What the close of a session does to its signal. By `passes_close` a close raises the signal for those
who watch at that moment, and stores nothing if nobody does; by `passes_perform` no operation touches the
signal otherwise. Watching and leaving only count (`Heeds.watch`, `Heeds.unwatch`). -/

namespace SessionEngine

variable {ε : Type}

@[simp] theorem Signal.watchers_raise (s : Signal) : s.raise.watchers = s.watchers := by
  unfold raise
  split <;> rfl

theorem Signal.raised_raise_iff (s : Signal) :
    s.raise.raised = true ↔ s.raised = true ∨ s.watchers ≠ 0 := by
  by_cases hnobody : s.watchers = 0
  · simp [raise_of_no_watcher hnobody, hnobody]
  · simp [raised_raise hnobody, hnobody]

namespace Session

/-- A closed session stays closed, and the signal is raised exactly if it was or the session closes while
somebody watches. -/
structure Heeds (s s' : Session ε) : Prop where
  shut : s'.stage.isOpen = true → s.stage.isOpen = true
  raised : s'.closeSignal.raised = true ↔ s.closeSignal.raised = true ∨
    s.stage.isOpen = true ∧ s'.stage.isOpen = false ∧ s.closeSignal.watchers ≠ 0

/-- Besides, nobody begins to watch and nobody leaves. -/
structure Passes (s s' : Session ε) : Prop extends Heeds s s' where
  watchers : s'.closeSignal.watchers = s.closeSignal.watchers

variable {s s' s'' : Session ε}

theorem Heeds.refl (s : Session ε) : s.Heeds s := by
  refine ⟨fun h => h, .inl, ?_⟩
  rintro (h | ⟨hopen, hshut, -⟩)
  · exact h
  · rw [hopen] at hshut
    cases hshut

theorem Passes.refl (s : Session ε) : s.Passes s := ⟨.refl s, rfl⟩

theorem Heeds.congr (h : s.Heeds s') (hopen : s''.stage.isOpen = s'.stage.isOpen)
    (hraised : s''.closeSignal.raised = s'.closeSignal.raised) : s.Heeds s'' := by
  refine ⟨fun h' => h.shut (hopen ▸ h'), ?_⟩
  rw [hraised, hopen]
  exact h.raised

theorem Heeds.watch (h : s.Heeds s') : s.Heeds s'.watchClose := h.congr rfl rfl

theorem Heeds.unwatch (h : s.Heeds s') : s.Heeds s'.unwatchClose := h.congr rfl rfl

theorem Passes.congr (h : s.Passes s') (hopen : s''.stage.isOpen = s'.stage.isOpen)
    (hsignal : s''.closeSignal = s'.closeSignal) : s.Passes s'' :=
  ⟨h.toHeeds.congr hopen (congrArg Signal.raised hsignal),
    (congrArg Signal.watchers hsignal).trans h.watchers⟩

theorem Stays.passes (h : Stays s s') : s.Passes s' :=
  (Passes.refl s).congr (congrArg Stage.isOpen h.stage) h.closeSignal

theorem Passes.trans (h : s.Passes s') (h' : s'.Passes s'') : s.Passes s'' := by
  refine ⟨⟨fun hopen => h.shut (h'.shut hopen), ?_⟩, h'.watchers.trans h.watchers⟩
  rw [h'.raised, h.raised, h.watchers]
  constructor
  · rintro ((hraised | ⟨hopen, hshut, hsome⟩) | ⟨hopen, hshut, hsome⟩)
    · exact .inl hraised
    · refine .inr ⟨hopen, ?_, hsome⟩
      rw [Bool.eq_false_iff] at hshut ⊢
      exact fun hopen' => hshut (h'.shut hopen')
    · exact .inr ⟨h.shut hopen, hshut, hsome⟩
  · rintro (hraised | ⟨hopen, hshut, hsome⟩)
    · exact .inl (.inl hraised)
    · cases hmid : s'.stage.isOpen with
      | true => exact .inr ⟨rfl, hshut, hsome⟩
      | false => exact .inl (.inr ⟨hopen, rfl, hsome⟩)

theorem passes_advance (s : Session ε) : s.Passes (s.advance .connecting .connected).2 := by
  unfold advance
  split
  next hconnecting => exact (Passes.refl s).congr (by rw [hconnecting]; rfl) rfl
  · exact .refl s

theorem passes_attach (s : Session ε) (ping pong : Bytes) (role : BeatRole) :
    s.Passes (s.attach ping pong role).2 := by
  rcases attach_cases s ping pong role with h | ⟨-, attributes, h⟩
  · rw [h]
    exact .refl s
  · rw [h]
    exact (Passes.refl s).congr rfl rfl

/-- A signal that is raised only for a closed session stays so. -/
theorem Heeds.shut_of_raised (h : s.Heeds s')
    (hs : s.closeSignal.raised = true → s.stage.isOpen = false)
    (hraised : s'.closeSignal.raised = true) : s'.stage.isOpen = false := by
  rcases h.raised.mp hraised with hold | ⟨-, hshut, -⟩
  · rw [Bool.eq_false_iff]
    intro hopen
    have hbefore := h.shut hopen
    rw [hs hold] at hbefore
    cases hbefore
  · exact hshut

variable [Tls.RecordEngine ε]

/-- A close raises the signal for those who watch, and only for them. -/
theorem passes_close (s : Session ε) : s.Passes s.close.2 := by
  rcases close_cases s with ⟨-, h⟩ | ⟨hopen, writer, tls, -, h⟩
  · rw [h]
    exact .refl s
  · rw [h]
    refine ⟨⟨fun hnot => (by cases hnot), ?_⟩, Signal.watchers_raise _⟩
    rw [Signal.raised_raise_iff]
    constructor
    · rintro (hraised | hsome)
      · exact .inl hraised
      · exact .inr ⟨hopen, rfl, hsome⟩
    · rintro (hraised | ⟨-, -, hsome⟩)
      · exact .inl hraised
      · exact .inr hsome

/-- Whatever is done to a session, nobody begins to watch it, and the signal is raised exactly by a close
that somebody watches for. -/
theorem passes_perform (s : Session ε) (now : Nat) (d : Deed) : s.Passes (s.perform now d) := by
  cases d with
  | fire e => exact (stays_fire s e).passes
  | send data => exact (stays_send s data).passes
  | feed data => exact (kept_feed s now data).passes
  | take => exact (kept_takeMessage s now).passes
  | dispatch => exact (stays_dispatch s now).passes
  | look => exact (kept_look s now).passes
  | lastLook => exact (kept_lastLook s now).passes
  | attach ping pong role => exact passes_attach s ping pong role
  | beat slot => exact (kept_beat s now slot).passes
  | establish => exact passes_advance s
  | close => exact passes_close s
  | installWriter => exact (kept_writer s _).passes
  | dropWriter => exact (kept_writer s _).passes
  | setMode mode => exact (kept_writer s _).passes

end Session

end SessionEngine
