import SessionEngine.Proofs.Session.Ledger

/-! What a session makes of the answer of its splitter. A message is taken exactly as long as the splitter has
said (`split_of_message`), and without one the answer tells why (`stops_of_none`, `stops_of_error`). Nothing
but this one answer counts: a splitter that gives the same one does just as well
(`takeMessage_withSplitter`). -/

namespace SessionEngine.Session

variable {ε : Type}

variable {s s' : Session ε} {now : Nat}

/-- By the answer of the splitter no message is taken: there is none yet, or the attempt fails. -/
def Stops (s : Session ε) (now : Nat) : Option Error → Prop
  | none => s.buffer.contents = [] ∨ s.splitter (s.view now) = .ok .needMore
  | some e => s.buffer.contents ≠ [] ∧
    (s.splitter (s.view now) = .error e ∨
      (s.splitter (s.view now) = .ok (.complete 0) ∧ e = .splitter .emptyMessage) ∨
      ∃ n, s.buffer.length < n ∧ s.splitter (s.view now) = .ok (.complete n) ∧
        e = .splitter (.beyondBuffer n s.buffer.length))

theorem split_of_empty (hempty : s.buffer.contents = []) (now : Nat) : s.split now = .ok .needMore := by
  rw [split, Buffer.isEmpty, hempty]
  rfl

theorem split_of_nonempty (hne : s.buffer.contents ≠ []) (now : Nat) :
    s.split now = s.splitter (s.view now) := by
  rw [split, Buffer.isEmpty, if_neg (by simpa using hne)]

def withSplitter (s : Session ε) (splitter : Splitter) : Session ε := { s with splitter }

theorem enqueue_withSplitter (s : Session ε) (splitter : Splitter) (payload : Bytes) :
    (s.withSplitter splitter).enqueue payload =
      ((s.enqueue payload).1, (s.enqueue payload).2.withSplitter splitter) := by
  simp only [enqueue, withSplitter]
  split <;> rfl

variable [Tls.RecordEngine ε]

/-- A message is as long as the splitter has said. -/
theorem split_of_message {message : Bytes} (h : s.takeMessage now = (.ok (some message), s')) :
    s.splitter (s.view now) = .ok (.complete message.length) := by
  obtain ⟨hne, buffer, htake, -⟩ := takeMessage_some h
  have hcontents : s.buffer.contents ≠ [] := by
    rw [(Buffer.contents_take? htake).1]
    exact List.append_ne_nil_of_left_ne_nil hne _
  rw [← split_of_nonempty hcontents now]
  unfold takeMessage at h
  split at h
  · cases h
  · cases h
  next n hsplit =>
    split at h
    · cases h
    · split at h
      · cases h
      next m buffer' htake' =>
        cases h
        rw [hsplit, (Buffer.contents_take? htake').2]

theorem stops_of_none (h : s.takeMessage now = (.ok none, s')) : s.Stops now none := by
  by_cases hempty : s.buffer.contents = []
  · exact .inl hempty
  · refine .inr ?_
    rw [← split_of_nonempty hempty now]
    unfold takeMessage at h
    split at h
    · cases h
    next hsplit => exact hsplit
    · split at h
      · cases h
      · split at h <;> cases h

theorem stops_of_error {e : Error} (h : s.takeMessage now = (.error e, s')) : s.Stops now (some e) := by
  have hne : s.buffer.contents ≠ [] := by
    intro hempty
    rw [takeMessage, split_of_empty hempty] at h
    cases h
  refine ⟨hne, ?_⟩
  rw [← split_of_nonempty hne now]
  unfold takeMessage at h
  split at h
  next e' hsplit =>
    cases h
    exact .inl hsplit
  · cases h
  next n hsplit =>
    split at h
    next hzero =>
      cases h
      exact .inr (.inl ⟨hzero ▸ hsplit, rfl⟩)
    · split at h
      next htake =>
        cases h
        have hbeyond : s.buffer.length < n := by
          by_contra hle
          rw [Buffer.take?, if_pos (Nat.le_of_not_lt hle)] at htake
          cases htake
        exact .inr (.inr ⟨n, hbeyond, hsplit, rfl⟩)
      · cases h

/-! ### Another splitter -/

section Exchange

variable (s : Session ε) (splitter : Splitter)

theorem transmit_withSplitter (data : Bytes) : (s.withSplitter splitter).transmit data =
    ((s.transmit data).1, (s.transmit data).2.withSplitter splitter) := by
  have hstage : (s.withSplitter splitter).stage = s.stage := rfl
  have htls : (s.withSplitter splitter).tls = s.tls := rfl
  rw [transmit, transmit, hstage, htls]
  split
  · rfl
  · cases s.tls with
    | none => exact enqueue_withSplitter s splitter data
    | some channel =>
      dsimp only
      split
      · rfl
      next payload channel' _ => exact enqueue_withSplitter { s with tls := some channel' } splitter payload

theorem answerTokens_withSplitter (pong : Bytes) (tokens : List Token) :
    (s.withSplitter splitter).answerTokens pong tokens =
      (s.answerTokens pong tokens).withSplitter splitter := by
  induction tokens generalizing s with
  | nil => rfl
  | cons token tokens ih =>
    cases token with
    | ping =>
      rw [answerTokens, answerTokens, transmit_withSplitter]
      exact ih (s.transmit pong).2
    | pong => exact ih s

/-- Stripping does not ask the splitter. -/
theorem intercept_withSplitter :
    (s.withSplitter splitter).intercept = s.intercept.withSplitter splitter := by
  have hslot : (s.withSplitter splitter).heartbeatSlot? = s.heartbeatSlot? := rfl
  rw [intercept, intercept, hslot]
  cases s.heartbeatSlot? with
  | none => rfl
  | some slot =>
    cases hbeat : s.heartbeats[slot]? with
    | none => simp only [interceptWith, withSplitter, hbeat]
    | some h =>
      have hbeat' : (s.withSplitter splitter).heartbeats[slot]? = some h := hbeat
      dsimp only
      rw [interceptWith_eq hbeat, interceptWith_eq hbeat', ← answerTokens_withSplitter]
      rfl

/-- Only the answer counts, and not who gives it. -/
theorem takeMessage_withSplitter {s : Session ε} {splitter : Splitter} {now : Nat}
    (hanswer : splitter (s.view now) = s.splitter (s.view now)) :
    (s.withSplitter splitter).takeMessage now =
      ((s.takeMessage now).1, (s.takeMessage now).2.withSplitter splitter) := by
  have hsplit : (s.withSplitter splitter).split now = s.split now := by
    rw [split, split]
    exact congrArg (ite _ _) hanswer
  rw [takeMessage, takeMessage, hsplit]
  split
  · rfl
  · rfl
  next n _ =>
    have hbuffer : (s.withSplitter splitter).buffer = s.buffer := rfl
    rw [hbuffer]
    split
    · rfl
    · split
      · rfl
      next message buffer _ =>
        exact congrArg (Prod.mk _) (intercept_withSplitter { s with buffer } splitter)

end Exchange

end SessionEngine.Session
