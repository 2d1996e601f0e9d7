import SessionEngine.Session

/-! Taking every message that is whole and queueing it for the handler. The main statements are
`takeMessage_some`, which says what a message takes from the buffer, and `length_lt_of_takeMessage`,
by which the taking comes to an end. -/

namespace SessionEngine.Session

variable {ε : Type}

@[simp] theorem buffer_fire (s : Session ε) (e : Event) : (s.fire e).buffer = s.buffer := rfl

@[simp] theorem buffer_enqueue (s : Session ε) (payload : Bytes) :
    (s.enqueue payload).2.buffer = s.buffer := by
  unfold enqueue; split <;> rfl

variable [Tls.RecordEngine ε]

@[simp] theorem buffer_transmit (s : Session ε) (data : Bytes) :
    (s.transmit data).2.buffer = s.buffer := by
  unfold transmit
  split
  · rfl
  · split
    · exact buffer_enqueue ..
    · split
      · rfl
      · exact buffer_enqueue ..

@[simp] theorem buffer_answerTokens (s : Session ε) (pong : Bytes) (tokens : List Token) :
    (s.answerTokens pong tokens).buffer = s.buffer := by
  induction tokens generalizing s with
  | nil => rfl
  | cons token tokens ih => cases token <;> simp [answerTokens, ih]

/-- Stripping leaves a tail of the buffer. -/
theorem contents_interceptWith (s : Session ε) (slot : Nat) :
    (s.interceptWith slot).buffer.contents =
      match s.heartbeats[slot]? with
      | none => s.buffer.contents
      | some h => (h.strip s.buffer.contents).2 := by
  cases h : s.heartbeats[slot]? with
  | none => simp [interceptWith, h]
  | some heartbeat => simp [interceptWith, h, setHeartbeat]

theorem contents_intercept_suffix (s : Session ε) :
    s.intercept.buffer.contents <:+ s.buffer.contents := by
  unfold intercept
  split
  · exact List.suffix_rfl
  next slot _ =>
    rw [contents_interceptWith]
    split
    · exact List.suffix_rfl
    next h _ => exact ⟨_, h.flatten_strip s.buffer.contents⟩

/-- A message is a head of the buffer, not empty, and stripping follows. -/
theorem takeMessage_some {s s' : Session ε} {now : Nat} {message : Bytes}
    (h : s.takeMessage now = (.ok (some message), s')) :
    message ≠ [] ∧ ∃ buffer, s.buffer.take? message.length = some (message, buffer) ∧
      s' = { s with buffer }.intercept := by
  unfold takeMessage at h
  split at h
  · simp at h
  · simp at h
  next n _ =>
    split at h
    · simp at h
    next hn =>
      split at h
      · simp at h
      next m buffer htake =>
        simp only [Prod.mk.injEq, Except.ok.injEq, Option.some.injEq] at h
        obtain ⟨rfl, rfl⟩ := h
        have hlen := (Buffer.contents_take? htake).2
        refine ⟨?_, buffer, hlen.symm ▸ htake, rfl⟩
        rintro rfl
        exact hn hlen.symm

theorem length_lt_of_takeMessage {s s' : Session ε} {now : Nat} {message : Bytes}
    (h : s.takeMessage now = (.ok (some message), s')) : s'.buffer.length < s.buffer.length := by
  obtain ⟨hne, buffer, htake, rfl⟩ := takeMessage_some h
  have hsplit := (Buffer.contents_take? htake).1
  have hle := (contents_intercept_suffix { s with buffer }).length_le
  have hpos := List.length_pos_iff.mpr hne
  simp only [Buffer.length, hsplit, List.length_append] at *
  omega

/-- Queues the messages that are whole, up to the first complaint of the splitter, which is queued
too; and counts them. -/
def dispatchAll (s : Session ε) (now : Nat) : Nat × Session ε :=
  match h : s.takeMessage now with
  | (.ok (some message), s') =>
    have : (s'.fire (.receive message)).buffer.length < s.buffer.length := by
      simpa using length_lt_of_takeMessage h
    let (n, s) := (s'.fire (.receive message)).dispatchAll now
    (n + 1, s)
  | (.ok none, s) => (0, s)
  | (.error e, s) => (0, s.fire (.exception e))
  termination_by s.buffer.length

/-- Queues the messages that are whole, if there is a handler for them. -/
def dispatch (s : Session ε) (now : Nat) : Nat × Session ε :=
  if s.settings.handled then s.dispatchAll now else (0, s)

end SessionEngine.Session
