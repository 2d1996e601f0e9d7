import SessionEngine.Proofs.Session.Ledger

/-! What closes a session, and what is left of it. `Agrees.perform` keeps stage, buffer and queue in
agreement about whether a session is closed, and `stage_le_perform` says that no operation takes it back
to an earlier stage. -/

namespace SessionEngine

variable {ε : Type}

theorem Stage.le_refl (s : Stage) : s ≤ s := Nat.le_refl s.rank

theorem Stage.le_trans {a b c : Stage} (h : a ≤ b) (h' : b ≤ c) : a ≤ c := Nat.le_trans h h'

theorem Stage.le_closed (s : Stage) : s ≤ .closed := by cases s <;> decide

theorem EventQueue.disconnected_foldl (es : List Event) (q : EventQueue) :
    (es.foldl EventQueue.fire q).disconnected = true ↔ q.disconnected = true ∨ .disconnect ∈ es := by
  induction es generalizing q with
  | nil => simp
  | cons e es ih => rw [List.foldl_cons, ih, disconnected_fire, List.mem_cons, or_assoc]

/-- Nothing is queued any more behind the disconnect. -/
theorem EventQueue.pending_foldl_of_disconnected {q : EventQueue} (h : q.disconnected = true)
    (es : List Event) : (es.foldl EventQueue.fire q).pending = q.pending := by
  induction es generalizing q with
  | nil => rfl
  | cons e es ih =>
    have hfire : (q.fire e).disconnected = true := (disconnected_fire q e).mpr (.inl h)
    rw [List.foldl_cons, ih hfire, pending_fire, if_neg (by simp [h]), List.append_nil]

namespace Session

/-- Stage, buffer and queue agree whether the session is closed; none is halfway there. -/
structure Agrees (s : Session ε) : Prop where
  settled : s.stage ≠ .closing
  buffer : s.buffer.closed = true ↔ s.stage = .closed
  queue : s.events.disconnected = true ↔ s.stage = .closed

/-- A session that was not closed yet, and of which nothing was heard yet. -/
structure Fresh (s : Session ε) : Prop where
  events : s.events = .empty
  stage : s.stage.isOpen = true
  buffer : s.buffer.closed = false

theorem fresh_new (id : Nat) (settings : Settings) (splitter : Splitter) :
    (new id settings splitter : Session ε).Fresh := ⟨rfl, rfl, rfl⟩

theorem Fresh.agrees {s : Session ε} (h : s.Fresh) : s.Agrees := by
  obtain ⟨hevents, hstage, hbuffer⟩ := h
  refine ⟨fun hs => ?_, ?_, ?_⟩
  · rw [hs] at hstage
    cases hstage
  · rw [hbuffer]
    refine ⟨nofun, fun hs => ?_⟩
    rw [hs] at hstage
    cases hstage
  · rw [hevents]
    refine ⟨nofun, fun hs => ?_⟩
    rw [hs] at hstage
    cases hstage

theorem Agrees.congr {s : Session ε} (h : s.Agrees) {events : EventQueue}
    (hevents : events.disconnected = s.events.disconnected) : ({ s with events } : Session ε).Agrees :=
  ⟨h.settled, h.buffer, hevents ▸ h.queue⟩

/-- The disconnect of a connected session is still to come. -/
theorem Agrees.disconnected_eq_false {s : Session ε} (h : s.Agrees) (hs : s.stage = .connected) :
    s.events.disconnected = false := by
  rw [Bool.eq_false_iff, ne_eq, h.queue, hs]
  decide

/-! ### One operation -/

variable [Tls.RecordEngine ε]

theorem disconnect_notMem_offers (s : Session ε) (now : Nat) : .disconnect ∉ s.offers now := by
  simp [offers]

/-- Only a close fires the disconnect, unless somebody fires it by hand. -/
theorem disconnect_mem_fires_iff {s : Session ε} {now : Nat} {d : Deed} (hd : d ≠ .fire .disconnect) :
    .disconnect ∈ s.fires now d ↔ d = .close ∧ s.stage.isOpen = true := by
  cases d with
  | fire e =>
    simp only [fires, List.mem_singleton, reduceCtorEq, false_and, iff_false]
    rintro rfl
    exact hd rfl
  | dispatch =>
    simp only [fires, reduceCtorEq, false_and, iff_false]
    split
    · exact disconnect_notMem_offers s now
    · exact List.not_mem_nil
  | send data =>
    simp only [fires, reduceCtorEq, false_and, iff_false]
    split <;> simp
  | close =>
    simp only [fires, true_and]
    split <;> simp_all
  | _ => simp [fires]

theorem closed_perform (s : Session ε) (now : Nat) (d : Deed) :
    (s.perform now d).buffer.closed = s.buffer.closed ∨ d = .close := by
  cases d with
  | send data => exact .inl (stays_send s data).closed
  | feed data => exact .inl (kept_feed s now data).closed
  | take => exact .inl (kept_takeMessage s now).closed
  | dispatch => exact .inl (stays_dispatch s now).closed
  | look => exact .inl (kept_look s now).closed
  | lastLook => exact .inl (kept_lastLook s now).closed
  | attach ping pong role => exact .inl (congrArg Buffer.closed (buffer_attach s ping pong role))
  | beat slot => exact .inl (kept_beat s now slot).closed
  | establish => exact .inl (congrArg Buffer.closed (buffer_advance s _ _))
  | close => exact .inr rfl
  | fire e => exact .inl rfl
  | installWriter => exact .inl rfl
  | dropWriter => exact .inl rfl
  | setMode mode => exact .inl rfl

theorem Agrees.close {s : Session ε} (h : s.Agrees) : s.close.2.Agrees ∧ s.close.2.stage = .closed := by
  rcases close_cases s with ⟨hclosed, heq⟩ | ⟨-, writer, tls, -, heq⟩
  · rw [heq]
    refine ⟨h, ?_⟩
    cases hstage : s.stage with
    | closed => rfl
    | closing => exact absurd hstage h.settled
    | connecting | connected => rw [hstage] at hclosed; cases hclosed
  · rw [heq]
    refine ⟨⟨nofun, ?_, ?_⟩, rfl⟩
    · simp
    · simp

theorem Agrees.perform {s : Session ε} (h : s.Agrees) {d : Deed} (hd : d ≠ .fire .disconnect)
    (now : Nat) : (s.perform now d).Agrees := by
  by_cases hclose : d = .close
  · subst hclose
    exact h.close.1
  · have hbuffer : (s.perform now d).buffer.closed = s.buffer.closed :=
      (closed_perform s now d).resolve_right hclose
    have hqueue : (s.perform now d).events.disconnected = true ↔ s.events.disconnected = true := by
      rw [events_perform, EventQueue.disconnected_foldl, disconnect_mem_fires_iff hd]
      simp [hclose]
    -- Establishing leaves a session open that was open before.
    have hstage : (s.perform now d).stage = s.stage ∨
        s.stage = .connecting ∧ (s.perform now d).stage = .connected := by
      rcases stage_perform s now d with hsame | rfl | rfl
      · exact .inl hsame
      · simp only [Session.perform, advance]
        split
        next hconnecting => exact .inr ⟨hconnecting, rfl⟩
        · exact .inl rfl
      · exact absurd rfl hclose
    refine ⟨?_, ?_, ?_⟩ <;> rcases hstage with hsame | ⟨hconnecting, hconnected⟩
    · rw [hsame]
      exact h.settled
    · rw [hconnected]
      decide
    · rw [hsame, hbuffer]
      exact h.buffer
    · rw [hconnected, hbuffer, h.buffer, hconnecting]
      decide
    · rw [hsame, hqueue]
      exact h.queue
    · rw [hconnected, hqueue, h.queue, hconnecting]
      decide

theorem stage_le_perform (s : Session ε) (now : Nat) (d : Deed) : s.stage ≤ (s.perform now d).stage := by
  rcases stage_perform s now d with hsame | rfl | rfl
  · rw [hsame]
    exact Stage.le_refl _
  · simp only [perform, advance]
    split
    next hconnecting =>
      rw [hconnecting]
      exact (by decide : Stage.connecting ≤ .connected)
    · exact Stage.le_refl _
  · simp only [perform]
    rcases close_cases s with ⟨-, heq⟩ | ⟨-, writer, tls, -, heq⟩ <;> rw [heq]
    · exact Stage.le_refl _
    · exact Stage.le_closed _

theorem close_fst (s : Session ε) : s.close.1 = s.stage.isOpen := by
  unfold close
  split
  next hopen => exact hopen.symm
  next hclosed => exact (Bool.eq_false_iff.mpr hclosed).symm

/-! ### Closed sessions -/

section Closed

variable {s : Session ε} (hclosed : s.stage = .closed)

include hclosed

theorem transmit_of_closed (data : Bytes) : s.transmit data = (.error .closed, s) := by
  rw [transmit, if_pos (by simp [hclosed])]

theorem send_of_closed (data : Bytes) : s.send data = (.error .closed, s) := by
  rw [send, transmit_of_closed hclosed]

theorem answerTokens_of_closed (pong : Bytes) (tokens : List Token) :
    s.answerTokens pong tokens = s := by
  induction tokens with
  | nil => rfl
  | cons token tokens ih =>
    cases token with
    | ping => rw [answerTokens, transmit_of_closed hclosed, ih]
    | pong => rw [answerTokens, ih]

theorem writer_beat_of_closed (now slot : Nat) : (s.beat now slot).2.writer = s.writer := by
  unfold beat
  split
  · rfl
  next h _ =>
    have htransmit := transmit_of_closed (s := s.setHeartbeat slot (h.beat now)) hclosed h.ping
    simp only [htransmit]
    rfl

theorem writer_interceptWith_of_closed (slot : Nat) : (s.interceptWith slot).writer = s.writer := by
  cases hslot : s.heartbeats[slot]? with
  | none => simp only [interceptWith, hslot]
  | some h =>
    rw [interceptWith_eq hslot, answerTokens_of_closed (by exact hclosed)]
    rfl

end Closed

end Session

end SessionEngine
