import SessionEngine.Proofs.Course.History
import SessionEngine.Proofs.Session.Ledger

/-! The limit of a session's buffer is fixed when the session begins: no operation moves it
(`limit_perform`), so whether a chunk is taken in is told by what is buffered alone. -/

namespace SessionEngine

variable {ε : Type} [Tls.RecordEngine ε]

theorem Buffer.limit_append {b b' : Buffer} {now : Nat} {data : Bytes}
    (h : b.append now data = .ok b') : b'.limit = b.limit := by
  unfold append at h
  split at h
  · rw [← Except.ok.inj h]
  · split at h
    · cases h
    · rw [← Except.ok.inj h]

theorem Buffer.limit_take? {b b' : Buffer} {n : Nat} {head : Bytes}
    (h : b.take? n = some (head, b')) : b'.limit = b.limit := by
  unfold take? at h
  split at h
  · rw [← (Prod.mk.inj (Option.some.inj h)).2]
  · cases h

theorem Buffer.limit_close (b : Buffer) : b.close.limit = b.limit := by
  unfold close
  split <;> rfl

/-- What fits is taken in. -/
theorem Buffer.append_of_fits {b : Buffer} {data : Bytes} (h : b.length + data.length ≤ b.limit)
    (now : Nat) : ∃ b', b.append now data = .ok b' := by
  cases happend : b.append now data with
  | ok b' => exact ⟨b', rfl⟩
  | error e =>
    obtain ⟨-, hover, -⟩ := append_eq_error_iff.mp happend
    omega

namespace Session

theorem limit_intercept (s : Session ε) : s.intercept.buffer.limit = s.buffer.limit := by
  unfold intercept interceptWith
  split
  · rfl
  · split
    · rfl
    · rw [buffer_answerTokens]
      rfl

theorem limit_feedPlaintext (s : Session ε) (now : Nat) (data : Bytes) :
    (s.feedPlaintext now data).2.buffer.limit = s.buffer.limit := by
  unfold feedPlaintext
  split
  · rfl
  next buffer happend => rw [limit_intercept, Buffer.limit_append happend]

theorem limit_feed (s : Session ε) (now : Nat) (data : Bytes) :
    (s.feed now data).2.buffer.limit = s.buffer.limit := by
  obtain ⟨s', -, hbuffer, -, ⟨e, h⟩ | h⟩ := s.feed_cases now data
  · rw [h]
    exact congrArg Buffer.limit hbuffer
  · rw [h, limit_feedPlaintext, hbuffer]

theorem limit_takeMessage (s : Session ε) (now : Nat) :
    (s.takeMessage now).2.buffer.limit = s.buffer.limit := by
  unfold takeMessage
  split
  · rfl
  · rfl
  · split
    · rfl
    · split
      · rfl
      next message buffer htake => rw [limit_intercept, Buffer.limit_take? htake]

theorem limit_dispatchAll (s : Session ε) (now : Nat) :
    (s.dispatchAll now).2.buffer.limit = s.buffer.limit := by
  have htake := limit_takeMessage s now
  fun_induction dispatchAll s now with
  | case1 s message s' h _ n t hrest ih =>
    rw [h] at htake
    rw [hrest] at ih
    exact (ih (limit_takeMessage _ now)).trans htake
  | case2 s s' h =>
    rw [h] at htake
    exact htake
  | case3 s e s' h =>
    rw [h] at htake
    exact htake

theorem limit_dispatch (s : Session ε) (now : Nat) :
    (s.dispatch now).2.buffer.limit = s.buffer.limit := by
  unfold dispatch
  split
  · exact limit_dispatchAll s now
  · rfl

theorem limit_look (s : Session ε) (now : Nat) : (s.look now).2.buffer.limit = s.buffer.limit := by
  have htake := limit_takeMessage s now
  unfold look
  split
  next e s' h => rw [h] at htake; exact htake
  next message s' h => rw [h] at htake; exact htake
  next s' h =>
    rw [h] at htake
    split
    · exact htake
    · split <;> exact htake

theorem limit_close (s : Session ε) : s.close.2.buffer.limit = s.buffer.limit := by
  rcases close_cases s with ⟨-, h⟩ | ⟨-, writer, tls, -, h⟩
  · rw [h]
  · rw [h]
    exact Buffer.limit_close s.buffer

theorem limit_perform (s : Session ε) (now : Nat) (d : Deed) :
    (s.perform now d).buffer.limit = s.buffer.limit := by
  cases d with
  | fire e => rfl
  | send data => exact congrArg Buffer.limit (buffer_send s data)
  | feed data => exact limit_feed s now data
  | take => exact limit_takeMessage s now
  | dispatch => exact limit_dispatch s now
  | look => exact limit_look s now
  | lastLook =>
    rw [perform, lastLook_snd]
    exact limit_takeMessage s now
  | attach ping pong role => exact congrArg Buffer.limit (buffer_attach s ping pong role)
  | beat slot => exact congrArg Buffer.limit (buffer_beat s now slot)
  | establish => exact congrArg Buffer.limit (buffer_advance s _ _)
  | close => exact limit_close s
  | installWriter => rfl
  | dropWriter => rfl
  | setMode mode => rfl

end Session

/-- Nothing that happens along a course moves the limit. -/
theorem Course.limit_run (h : Handler μ ε) (moves : List (Nat × Move)) (c : Course μ ε) :
    (c.run h moves).session.buffer.limit = c.session.buffer.limit := by
  refine run_keeps (fun c' => c'.session.buffer.limit = c.session.buffer.limit)
    (fun {c'} now d hc => (Session.limit_perform c'.session now d).trans hc) (fun {c'} hc => ?_)
    (fun _ hc => hc) rfl
  obtain ⟨-, events, htell, -⟩ := c'.queued_tell h
  rw [htell]
  exact hc

end SessionEngine
