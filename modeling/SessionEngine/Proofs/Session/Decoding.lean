import SessionEngine.Proofs.Session.Cutting

/-! What a feed brings to the buffer of a session, with a TLS layer or without one: what was decoded, if the
feed succeeds (`feed_eq_intercept`), and nothing if it fails (`unchanged_of_failed`). -/

namespace SessionEngine.Session

variable {ε : Type} [Tls.RecordEngine ε]

/-- The bytes that a feed brings to the buffer. -/
def brings (s : Session ε) (now : Nat) (data : Bytes) : Bytes :=
  match (s.feed now data).1 with
  | .ok () => s.decoded data
  | .error _ => []

variable {s : Session ε} {now : Nat} {data : Bytes}

theorem brings_of_ok (h : (s.feed now data).1 = .ok ()) : s.brings now data = s.decoded data := by
  rw [brings, h]

theorem brings_of_failed (h : (s.feed now data).1 ≠ .ok ()) : s.brings now data = [] := by
  unfold brings
  split
  next hok => exact absurd hok h
  · rfl

/-- A feed that fails leaves the buffer and the heartbeats alone. -/
theorem unchanged_of_failed (h : (s.feed now data).1 ≠ .ok ()) :
    (s.feed now data).2.buffer = s.buffer ∧ (s.feed now data).2.heartbeats = s.heartbeats := by
  obtain ⟨s', -, hbuffer, hbeats, ⟨e, hfeed⟩ | hfeed⟩ := s.feed_cases now data
  · rw [hfeed]
    exact ⟨hbuffer, hbeats⟩
  · rw [hfeed, feedPlaintext, hbuffer] at h ⊢
    cases happend : s.buffer.append now (s.decoded data) with
    | error cause => exact ⟨hbuffer, hbeats⟩
    | ok buffer =>
      rw [happend] at h
      exact absurd rfl h

/-- A feed that succeeds strips the buffer with what was decoded at its end. -/
theorem feed_eq_intercept (h : (s.feed now data).1 = .ok ()) :
    ∃ s' buffer, s.Kept s' ∧ s'.heartbeats = s.heartbeats ∧
      s.buffer.append now (s.decoded data) = .ok buffer ∧
      (s.feed now data).2 = ({ s' with buffer } : Session ε).intercept := by
  obtain ⟨s', hkept, hbuffer, hbeats, ⟨e, hfeed⟩ | hfeed⟩ := s.feed_cases now data
  · rw [hfeed] at h
    cases h
  · rw [hfeed, feedPlaintext, hbuffer] at h ⊢
    cases happend : s.buffer.append now (s.decoded data) with
    | error cause =>
      rw [happend] at h
      cases h
    | ok buffer => exact ⟨s', buffer, hkept, hbeats, rfl, rfl⟩

/-- Without a heartbeat, a feed leaves the buffer alone where it brings nothing, and else adds to it what
it brings. -/
theorem buffer_feed_brings (hbare : s.heartbeatSlot? = none) (now : Nat) (data : Bytes) :
    s.brings now data = [] ∧ (s.feed now data).2.buffer = s.buffer ∨
      s.brings now data ≠ [] ∧
        s.buffer.append now (s.brings now data) = .ok (s.feed now data).2.buffer := by
  by_cases hok : (s.feed now data).1 = .ok ()
  · obtain ⟨s', buffer, hkept, -, happend, hfeed⟩ := feed_eq_intercept hok
    have hstrip : ({ s' with buffer } : Session ε).intercept = { s' with buffer } :=
      intercept_of_bare (s := { s' with buffer }) (hkept.heartbeatSlot?.trans hbare)
    rw [brings_of_ok hok, hfeed, hstrip]
    by_cases hempty : s.decoded data = []
    · rw [hempty] at happend
      exact .inl ⟨hempty, (Except.ok.inj happend).symm⟩
    · exact .inr ⟨hempty, happend⟩
  · exact .inl ⟨brings_of_failed hok, (unchanged_of_failed hok).1⟩

end SessionEngine.Session
