import SessionEngine.Proofs.Heartbeat.Items
import SessionEngine.Proofs.Session.Deed
import SessionEngine.Proofs.Session.Sending

/-! A connected plaintext session with a heartbeat and a writer that works. `hears_intercept` and
`hears_feed` say what stripping does to it: the heartbeat hears the tokens, and each ping is answered
with one pong. -/

namespace SessionEngine.Session

variable {ε : Type}

/-- The heartbeat `h` is attached in the place `slot`, and what it sends reaches the writer. -/
structure Beating (s : Session ε) (slot : Nat) (h : Heartbeat) : Prop where
  plain : s.tls = none
  stage : s.stage = .connected
  writer : s.writer.Works
  attached : s.heartbeatSlot? = some slot
  heartbeat : s.heartbeats[slot]? = some h

/-- From `s` to `s'` the heartbeat heard `tokens`, and each ping was answered; nothing else was
written. -/
structure Hears (slot : Nat) (h : Heartbeat) (tokens : List Token) (s s' : Session ε) : Prop where
  beating : s'.Beating slot (h.receive tokens)
  taken : s'.writer.taken = s.writer.taken ++ List.replicate (tokens.count .ping) h.pong

variable {s s' s'' : Session ε} {slot : Nat} {h : Heartbeat} {tokens more : List Token}

theorem Beating.heartbeat?_eq (hs : s.Beating slot h) : s.heartbeat? = some h := by
  rw [heartbeat?, hs.attached]
  exact hs.heartbeat

theorem Hears.refl (hs : s.Beating slot h) : Hears slot h [] s s :=
  ⟨h.receive_nil.symm ▸ hs, (List.append_nil _).symm⟩

theorem Hears.trans (h1 : Hears slot h tokens s s') (h2 : Hears slot (h.receive tokens) more s' s'') :
    Hears slot h (tokens ++ more) s s'' := by
  refine ⟨h.receive_receive tokens more ▸ h2.beating, ?_⟩
  rw [h2.taken, h1.taken, List.count_append, List.append_assoc, ← List.replicate_append_replicate]
  rfl

theorem Beating.congr (hs : s.Beating slot h) (buffer : Buffer) (events : EventQueue) :
    ({ s with buffer, events } : Session ε).Beating slot h :=
  ⟨hs.plain, hs.stage, hs.writer, hs.attached, hs.heartbeat⟩

variable [Tls.RecordEngine ε]

theorem answerTokens_of_works (hplain : s.tls = none) (hstage : s.stage = .connected)
    (hwriter : s.writer.Works) (pong : Bytes) (tokens : List Token) :
    s.answerTokens pong tokens = { s with writer := { s.writer with
      taken := s.writer.taken ++ List.replicate (tokens.count .ping) pong } } := by
  induction tokens generalizing s with
  | nil => simp [answerTokens]
  | cons token tokens ih =>
    cases token with
    | ping =>
      have htransmit := transmit_of_works hplain hstage hwriter pong
      have hrest := ih (s := (s.transmit pong).2) (by rw [htransmit]; exact hplain)
        (by rw [htransmit]; exact hstage) (by rw [htransmit]; exact hwriter)
      rw [answerTokens, hrest, htransmit]
      simp [List.replicate_succ]
    | pong =>
      rw [answerTokens, ih hplain hstage hwriter]
      simp

theorem hears_intercept (hs : s.Beating slot h) :
    Hears slot h (h.strip s.buffer.contents).1 s s.intercept ∧
      s.intercept.buffer.contents = (h.strip s.buffer.contents).2 := by
  obtain ⟨hlt, -⟩ := List.getElem?_eq_some_iff.mp hs.heartbeat
  have hintercept : s.intercept = s.interceptWith slot := by simp only [intercept, hs.attached]
  have hanswer := answerTokens_of_works
    (s := (s.withContents (h.strip s.buffer.contents).2).setHeartbeat slot
      (h.receive (h.strip s.buffer.contents).1))
    hs.plain hs.stage hs.writer h.pong (h.strip s.buffer.contents).1
  rw [hintercept, interceptWith_eq hs.heartbeat, hanswer]
  refine ⟨⟨⟨hs.plain, hs.stage, hs.writer, hs.attached, ?_⟩, rfl⟩, rfl⟩
  exact List.getElem?_set_self hlt

theorem hears_feed (hs : s.Beating slot h) {now : Nat} {data : Bytes}
    (hfeed : (s.feed now data).1 = .ok ()) :
    Hears slot h (h.strip (s.buffer.contents ++ data)).1 s (s.feed now data).2 ∧
      (s.feed now data).2.buffer.contents = (h.strip (s.buffer.contents ++ data)).2 := by
  have hplain : s.feed now data = s.feedPlaintext now data := by rw [feed, hs.plain]
  rw [hplain, feedPlaintext] at hfeed ⊢
  cases happend : s.buffer.append now data with
  | error cause => rw [happend] at hfeed; cases hfeed
  | ok buffer =>
    obtain ⟨hhears, hcontents⟩ := hears_intercept (hs.congr buffer s.events)
    rw [← Buffer.contents_append happend]
    exact ⟨⟨hhears.beating, hhears.taken⟩, hcontents⟩

end SessionEngine.Session
