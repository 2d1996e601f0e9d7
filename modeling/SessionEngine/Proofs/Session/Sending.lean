import SessionEngine.Session

/-! How a session without a TLS layer sends. The main statements are `transmit_of_works`, by which a
connected session whose writer works hands every payload over, and `send_error_cases`, which lists what
a send can fail with. -/

namespace SessionEngine

variable {ε : Type} [Tls.RecordEngine ε]

/-- The writer takes payloads. -/
def Writer.Works (w : Writer) : Prop := w.installed = true ∧ w.gone = false

theorem Writer.hand_of_works {w : Writer} (h : w.Works) (payload : Bytes) :
    w.hand payload = .ok (w.mode, { w with taken := w.taken ++ [payload] }) := by
  simp [hand, h.1, h.2]

theorem Writer.hand_error_cases {w : Writer} {payload : Bytes} {e : Error}
    (h : w.hand payload = .error e) : e = .closed ∨ e = .writerGone := by
  unfold hand at h
  split at h
  · cases h
    exact .inl rfl
  · split at h
    · cases h
      exact .inr rfl
    · cases h

namespace Session

theorem transmit_of_plain {s : Session ε} (hplain : s.tls = none) (data : Bytes) :
    s.transmit data = if s.stage ≠ .connected then (.error .closed, s) else s.enqueue data := by
  rw [transmit, hplain]

/-- A session that is connected and has a writer that works hands every payload over. -/
theorem transmit_of_works {s : Session ε} (hplain : s.tls = none) (hstage : s.stage = .connected)
    (hwriter : s.writer.Works) (data : Bytes) :
    s.transmit data = (.ok s.writer.mode,
      { s with writer := { s.writer with taken := s.writer.taken ++ [data] } }) := by
  rw [transmit_of_plain hplain, if_neg (fun h => h hstage), enqueue, Writer.hand_of_works hwriter]

theorem send_error_cases {s : Session ε} (hplain : s.tls = none) {data : Bytes} {e : Error}
    (h : (s.send data).1 = .error e) : e = .closed ∨ e = .writerGone ∨ ∃ cause, e = .send cause := by
  unfold send at h
  rw [transmit_of_plain hplain] at h
  by_cases hstage : s.stage ≠ .connected
  · rw [if_pos hstage] at h
    cases h
    exact .inl rfl
  · rw [if_neg hstage, enqueue] at h
    cases hhand : s.writer.hand data with
    | error e' =>
      rw [hhand] at h
      cases h
      rcases Writer.hand_error_cases hhand with rfl | rfl
      · exact .inl rfl
      · exact .inr (.inl rfl)
    | ok handed =>
      obtain ⟨mode, writer⟩ := handed
      rw [hhand] at h
      cases mode with
      | accept => cases h
      | refuse cause => cases h; exact .inr (.inr ⟨cause, rfl⟩)
      | abandon => cases h; exact .inr (.inl rfl)

end Session

end SessionEngine
