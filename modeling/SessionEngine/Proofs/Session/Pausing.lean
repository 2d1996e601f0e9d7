import SessionEngine.Proofs.Session.Cutting

/-! A session that cuts by silence, without a heartbeat. What is buffered is one message once the last
byte is as old as the read timeout (`dispatch_of_silent`); until then there is none
(`takeMessage_of_waiting`). -/

namespace SessionEngine.Session

variable {ε : Type}

/-- Something is buffered, and the last of it came at `last`. -/
structure Holding (s : Session ε) (last : Nat) : Prop where
  nonempty : s.buffer.contents ≠ []
  arrival : s.buffer.lastArrival = some last

/-- A plaintext session with a handler, which cuts where it is silent for `timeout`. -/
structure Pausing (s : Session ε) (timeout : Nat) : Prop where
  plain : s.tls = none
  splitter : s.splitter = .silence
  handled : s.settings.handled = true
  window : s.settings.readTimeout = timeout

variable {s : Session ε} {now last timeout : Nat}

theorem Pausing.of_grows {s' : Session ε} (hs : s.Pausing timeout) (h : s.Grows s') :
    s'.Pausing timeout := by
  refine ⟨h.plain hs.plain, h.splitter.trans hs.splitter, ?_, ?_⟩ <;> rw [h.settings]
  · exact hs.handled
  · exact hs.window

theorem split_of_holding (hs : s.splitter = .silence) (hheld : s.Holding last) (now : Nat) :
    s.split now = .ok
      (if s.settings.readTimeout ≤ now - last then .complete s.buffer.contents.length
        else .needMore) := by
  have hpos := List.length_pos_iff.mpr hheld.nonempty
  have hempty : s.buffer.isEmpty = false := by
    simpa [Buffer.isEmpty] using hheld.nonempty
  rw [split, hempty, hs]
  simp only [Splitter.silence, view, Buffer.idle, hheld.arrival, Option.map_some, Silence.decide]
  by_cases hsilent : s.settings.readTimeout ≤ now - last
  · simp [hsilent, hpos]
  · simp [hsilent]

variable [Tls.RecordEngine ε]

theorem takeMessage_of_empty (hempty : s.buffer.contents = []) (now : Nat) :
    s.takeMessage now = (.ok none, s) := by
  have hsplit : s.split now = .ok .needMore := by simp [split, Buffer.isEmpty, hempty]
  rw [takeMessage, hsplit]

theorem takeMessage_of_waiting (hs : s.splitter = .silence) (hheld : s.Holding last)
    (hwait : now - last < s.settings.readTimeout) : s.takeMessage now = (.ok none, s) := by
  have hsplit := split_of_holding hs hheld now
  rw [if_neg (by omega)] at hsplit
  rw [takeMessage, hsplit]

theorem takeMessage_of_silent (hs : s.splitter = .silence) (hbare : s.heartbeatSlot? = none)
    (hheld : s.Holding last) (hsilent : s.settings.readTimeout ≤ now - last) :
    s.takeMessage now = (.ok (some s.buffer.contents), s.withContents []) := by
  have hpos := List.length_pos_iff.mpr hheld.nonempty
  have hsplit := split_of_holding hs hheld now
  rw [if_pos hsilent] at hsplit
  have hstrip : (s.withContents []).intercept = s.withContents [] :=
    intercept_of_bare (s := s.withContents []) hbare
  rw [takeMessage, hsplit]
  simp only [if_neg (Nat.ne_of_gt hpos), Buffer.take?, Buffer.length, Nat.le_refl, if_true,
    List.take_length, List.drop_length]
  exact congrArg (Prod.mk _) hstrip

theorem dispatchAll_of_none (h : s.takeMessage now = (.ok none, s)) : s.dispatchAll now = (0, s) := by
  rw [dispatchAll]
  split
  next heq => rw [h] at heq; cases heq
  next heq => rw [h] at heq; cases heq; rfl
  next heq => rw [h] at heq; cases heq

/-- A dispatch finds nothing where no message is whole. -/
theorem dispatch_of_none (h : s.takeMessage now = (.ok none, s)) :
    s.dispatch now = (0, s) ∧ s.fires now .dispatch = [] := by
  refine ⟨?_, ?_⟩
  · rw [dispatch, dispatchAll_of_none h]
    split <;> rfl
  · rw [fires, offers_of_none h]
    split <;> rfl

/-- What is buffered is dispatched as one message once the silence behind it is long enough. -/
theorem dispatch_of_silent (hs : s.Pausing timeout) (hbare : s.heartbeatSlot? = none)
    (hheld : s.Holding last) (hsilent : timeout ≤ now - last) :
    s.dispatch now = (1, (s.withContents []).fire (.receive s.buffer.contents)) ∧
      s.fires now .dispatch = [.receive s.buffer.contents] := by
  have htake := takeMessage_of_silent hs.splitter hbare hheld (hs.window ▸ hsilent)
  have hrest : ((s.withContents []).fire (.receive s.buffer.contents)).takeMessage now =
      (.ok none, (s.withContents []).fire (.receive s.buffer.contents)) := takeMessage_of_empty rfl now
  refine ⟨?_, ?_⟩
  · rw [dispatch, if_pos hs.handled, dispatchAll]
    split
    next heq =>
      rw [htake] at heq
      cases heq
      rw [dispatchAll_of_none hrest]
    next heq => rw [htake] at heq; cases heq
    next heq => rw [htake] at heq; cases heq
  · rw [fires, if_pos hs.handled, offers_of_message htake, offers_of_none hrest]

end SessionEngine.Session
