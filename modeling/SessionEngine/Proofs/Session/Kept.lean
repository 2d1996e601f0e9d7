import SessionEngine.Session.Dispatch
import SessionEngine.Session.Read

/-! What the steps of a session leave alone. Sending, beating and receiving change the buffer, the
heartbeats, the writer, the TLS layer and the queue of events, and nothing else (`Stays`); most of them
keep the queue too (`Kept`). Whatever is done, an attached heartbeat stays attached with its tokens,
and a session without a TLS layer stays without one (`Grows`). -/

namespace SessionEngine.Session

variable {ε : Type}

/-- What the owner of a heartbeat fixes for good: its tokens and its role. -/
def fixture (h : Heartbeat) : Bytes × Bytes × BeatRole := (h.ping, h.pong, h.role)

/-- `s'` agrees with `s` on what only a close, a new heartbeat or its owner changes. -/
structure Stays (s s' : Session ε) : Prop where
  settings : s'.settings = s.settings
  splitter : s'.splitter = s.splitter
  stage : s'.stage = s.stage
  attributes : s'.attributes = s.attributes
  closeSignal : s'.closeSignal = s.closeSignal
  fixtures : s'.heartbeats.map fixture = s.heartbeats.map fixture
  closed : s'.buffer.closed = s.buffer.closed
  plain : s.tls = none → s'.tls = none

/-- `s'` agrees with `s` on everything that beating and receiving leave alone. -/
structure Kept (s s' : Session ε) : Prop extends Stays s s' where
  events : s'.events = s.events

theorem Stays.refl (s : Session ε) : Stays s s := ⟨rfl, rfl, rfl, rfl, rfl, rfl, rfl, fun h => h⟩

theorem Stays.trans {s1 s2 s3 : Session ε} (h1 : Stays s1 s2) (h2 : Stays s2 s3) : Stays s1 s3 :=
  ⟨h2.settings.trans h1.settings, h2.splitter.trans h1.splitter, h2.stage.trans h1.stage,
    h2.attributes.trans h1.attributes, h2.closeSignal.trans h1.closeSignal,
    h2.fixtures.trans h1.fixtures, h2.closed.trans h1.closed, fun h => h2.plain (h1.plain h)⟩

theorem Stays.heartbeatSlot? {s s' : Session ε} (h : Stays s s') :
    s'.heartbeatSlot? = s.heartbeatSlot? := by
  rw [Session.heartbeatSlot?, h.attributes, Session.heartbeatSlot?]

theorem Kept.refl (s : Session ε) : Kept s s := ⟨.refl s, rfl⟩

theorem Kept.trans {s1 s2 s3 : Session ε} (h1 : Kept s1 s2) (h2 : Kept s2 s3) : Kept s1 s3 :=
  ⟨h1.toStays.trans h2.toStays, h2.events.trans h1.events⟩

/-- What every operation leaves of `s` in `s'`: settings and splitter, the attached heartbeat, the
heartbeats in their places, and the lack of a TLS layer. -/
structure Grows (s s' : Session ε) : Prop where
  settings : s'.settings = s.settings
  splitter : s'.splitter = s.splitter
  slot : ∀ slot, s.heartbeatSlot? = some slot → s'.heartbeatSlot? = some slot
  fixtures : s.heartbeats.map fixture <+: s'.heartbeats.map fixture
  plain : s.tls = none → s'.tls = none

theorem Stays.grows {s s' : Session ε} (h : Stays s s') : Grows s s' :=
  ⟨h.settings, h.splitter, fun _ hslot => h.heartbeatSlot?.trans hslot, h.fixtures ▸ List.prefix_rfl,
    h.plain⟩

theorem Grows.trans {s1 s2 s3 : Session ε} (h1 : Grows s1 s2) (h2 : Grows s2 s3) : Grows s1 s3 :=
  ⟨h2.settings.trans h1.settings, h2.splitter.trans h1.splitter,
    fun slot hslot => h2.slot slot (h1.slot slot hslot), h1.fixtures.trans h2.fixtures,
    fun h => h2.plain (h1.plain h)⟩

/-- Nothing detaches a heartbeat. -/
theorem Grows.bare {s s' : Session ε} (h : Grows s s') (hbare : s'.heartbeatSlot? = none) :
    s.heartbeatSlot? = none := by
  cases hslot : s.heartbeatSlot? with
  | none => rfl
  | some slot => rw [h.slot slot hslot] at hbare; cases hbare

theorem kept_buffer {s : Session ε} {buffer : Buffer} (h : buffer.closed = s.buffer.closed) :
    Kept s { s with buffer } :=
  ⟨⟨rfl, rfl, rfl, rfl, rfl, rfl, h, fun h => h⟩, rfl⟩

theorem kept_tls {s : Session ε} {channel : Tls.Channel ε} (h : s.tls = some channel)
    (channel' : Tls.Channel ε) : Kept s { s with tls := some channel' } :=
  ⟨⟨rfl, rfl, rfl, rfl, rfl, rfl, rfl, fun hnone => by rw [hnone] at h; cases h⟩, rfl⟩

theorem kept_writer (s : Session ε) (writer : Writer) : Kept s { s with writer } :=
  ⟨⟨rfl, rfl, rfl, rfl, rfl, rfl, rfl, fun h => h⟩, rfl⟩

theorem enqueue_eq (s : Session ε) (payload : Bytes) :
    ∃ writer, (s.enqueue payload).2 = { s with writer } := by
  unfold enqueue
  split
  next mode writer _ => exact ⟨writer, rfl⟩
  · exact ⟨s.writer, rfl⟩

theorem kept_enqueue (s : Session ε) (payload : Bytes) : Kept s (s.enqueue payload).2 := by
  obtain ⟨writer, h⟩ := s.enqueue_eq payload
  rw [h]
  exact kept_writer s writer

/-- A heartbeat in its place may change its judgement, not its tokens and role. -/
theorem kept_setHeartbeat {s : Session ε} {slot : Nat} {h h' : Heartbeat}
    (hslot : s.heartbeats[slot]? = some h) (hfix : fixture h' = fixture h) :
    Kept s (s.setHeartbeat slot h') := by
  refine ⟨⟨rfl, rfl, rfl, rfl, rfl, ?_, rfl, fun h => h⟩, rfl⟩
  apply List.ext_getElem?
  intro i
  by_cases hi : i = slot
  · subst hi
    obtain ⟨hlt, rfl⟩ := List.getElem?_eq_some_iff.mp hslot
    simp [setHeartbeat, hlt, hfix]
  · simp [setHeartbeat, List.getElem?_set_ne (Ne.symm hi)]

theorem stays_fire (s : Session ε) (e : Event) : Stays s (s.fire e) := by
  cases e <;> exact ⟨rfl, rfl, rfl, rfl, rfl, rfl, rfl, fun h => h⟩

/-- Attaching puts a new heartbeat behind the others, or does nothing. -/
theorem attach_cases (s : Session ε) (ping pong : Bytes) (role : BeatRole) :
    (s.attach ping pong role).2 = s ∨ s.heartbeatSlot? = none ∧ ∃ attributes,
      (s.attach ping pong role).2 =
        { s with attributes, heartbeats := s.heartbeats ++ [.new ping pong role] } := by
  unfold attach
  split
  · exact .inl rfl
  · split
    · exact .inl rfl
    · exact .inl rfl
    next hnone => exact .inr ⟨by simp [heartbeatSlot?, hnone], _, rfl⟩

theorem grows_attach (s : Session ε) (ping pong : Bytes) (role : BeatRole) :
    Grows s (s.attach ping pong role).2 := by
  rcases attach_cases s ping pong role with h | ⟨hbare, attributes, h⟩
  · rw [h]
    exact (Stays.refl s).grows
  · rw [h]
    refine ⟨rfl, rfl, fun slot hslot => ?_, ?_, fun hnone => hnone⟩
    · rw [hbare] at hslot
      cases hslot
    · simp only [List.map_append]
      exact List.prefix_append _ _

theorem grows_advance (s : Session ε) (source target : Stage) :
    Grows s (s.advance source target).2 := by
  unfold advance
  split
  · exact ⟨rfl, rfl, fun _ h => h, List.prefix_rfl, fun h => h⟩
  · exact (Stays.refl s).grows

def withContents (s : Session ε) (contents : Bytes) : Session ε :=
  { s with buffer := { s.buffer with contents } }

theorem kept_withContents (s : Session ε) (contents : Bytes) : Kept s (s.withContents contents) :=
  kept_buffer rfl

variable [Tls.RecordEngine ε]

theorem kept_transmit (s : Session ε) (data : Bytes) : Kept s (s.transmit data).2 := by
  unfold transmit
  split
  · exact Kept.refl s
  · split
    · exact kept_enqueue s data
    next channel htls =>
      split
      · exact kept_tls htls _
      · exact (kept_tls htls _).trans (kept_enqueue _ _)

theorem kept_answerTokens (s : Session ε) (pong : Bytes) (tokens : List Token) :
    Kept s (s.answerTokens pong tokens) := by
  induction tokens generalizing s with
  | nil => exact Kept.refl s
  | cons token tokens ih =>
    cases token with
    | ping => exact (kept_transmit s pong).trans (ih _)
    | pong => exact ih s

/-- Stripping takes the tokens off the buffer, tells the heartbeat, and answers the pings. -/
theorem interceptWith_eq {s : Session ε} {slot : Nat} {h : Heartbeat}
    (hslot : s.heartbeats[slot]? = some h) :
    s.interceptWith slot =
      ((s.withContents (h.strip s.buffer.contents).2).setHeartbeat slot
        (h.receive (h.strip s.buffer.contents).1)).answerTokens h.pong
          (h.strip s.buffer.contents).1 := by
  simp [interceptWith, hslot, withContents]

theorem kept_interceptWith (s : Session ε) (slot : Nat) : Kept s (s.interceptWith slot) := by
  cases hslot : s.heartbeats[slot]? with
  | none =>
    simp only [interceptWith, hslot]
    exact Kept.refl s
  | some h =>
    rw [interceptWith_eq hslot]
    have hcut := kept_withContents s (h.strip s.buffer.contents).2
    refine (hcut.trans ?_).trans (kept_answerTokens _ _ _)
    exact kept_setHeartbeat hslot rfl

theorem kept_intercept (s : Session ε) : Kept s s.intercept := by
  unfold intercept
  split
  · exact Kept.refl s
  · exact kept_interceptWith s _

theorem kept_feedPlaintext (s : Session ε) (now : Nat) (data : Bytes) :
    Kept s (s.feedPlaintext now data).2 := by
  unfold feedPlaintext
  split
  · exact Kept.refl s
  next buffer happend => exact (kept_buffer (Buffer.closed_append happend)).trans (kept_intercept _)

/-- What the TLS layer makes of `data`; without one it is `data` itself. -/
def decoded (s : Session ε) (data : Bytes) : Bytes :=
  match s.tls with
  | none => data
  | some channel =>
    match (channel.unwrap data).1 with
    | .ok plain => plain
    | .error _ => []

theorem decoded_of_plain {s : Session ε} (hplain : s.tls = none) (data : Bytes) : s.decoded data = data := by
  rw [decoded, hplain]

theorem decoded_of_unwrap {s : Session ε} {channel channel' : Tls.Channel ε} {data plain : Bytes}
    (htls : s.tls = some channel) (hunwrap : channel.unwrap data = (.ok plain, channel')) :
    s.decoded data = plain := by
  simp only [decoded, htls, hunwrap]

/-- Below a feed the TLS layer and the writer may change, and the buffer and the heartbeats do not; then the
feed fails, or what was decoded is fed as plaintext. -/
theorem feed_cases (s : Session ε) (now : Nat) (data : Bytes) :
    ∃ s', s.Kept s' ∧ s'.buffer = s.buffer ∧ s'.heartbeats = s.heartbeats ∧
      ((∃ e, s.feed now data = (.error e, s')) ∨
        s.feed now data = s'.feedPlaintext now (s.decoded data)) := by
  unfold feed
  split
  next hplain => exact ⟨s, .refl s, rfl, rfl, .inr (by rw [decoded_of_plain hplain])⟩
  next channel htls =>
    split
    next e channel' _ => exact ⟨_, kept_tls htls channel', rfl, rfl, .inl ⟨e, rfl⟩⟩
    next plain channel' hunwrap =>
      rw [decoded_of_unwrap htls hunwrap]
      dsimp only
      have hkept := kept_tls htls channel'.takeOutbound.2
      split
      · exact ⟨_, hkept, rfl, rfl, .inr rfl⟩
      · obtain ⟨writer, hwriter⟩ := enqueue_eq { s with tls := some channel'.takeOutbound.2 }
          channel'.takeOutbound.1
        have henqueue := hkept.trans (kept_writer _ writer)
        split
        next e s' he =>
          rw [he] at hwriter
          obtain rfl : s' = _ := hwriter
          exact ⟨_, henqueue, rfl, rfl, .inl ⟨e, rfl⟩⟩
        next mode s' he =>
          rw [he] at hwriter
          obtain rfl : s' = _ := hwriter
          exact ⟨_, henqueue, rfl, rfl, .inr rfl⟩

theorem kept_feed (s : Session ε) (now : Nat) (data : Bytes) : Kept s (s.feed now data).2 := by
  obtain ⟨s', hkept, -, -, ⟨e, h⟩ | h⟩ := s.feed_cases now data
  · rw [h]
    exact hkept
  · rw [h]
    exact hkept.trans (kept_feedPlaintext s' now (s.decoded data))

theorem kept_takeMessage (s : Session ε) (now : Nat) : Kept s (s.takeMessage now).2 := by
  unfold takeMessage
  split
  · exact Kept.refl s
  · exact Kept.refl s
  · split
    · exact Kept.refl s
    · split
      · exact Kept.refl s
      next message buffer htake =>
        exact (kept_buffer (Buffer.closed_take? htake)).trans (kept_intercept _)

theorem kept_look (s : Session ε) (now : Nat) : Kept s (s.look now).2 := by
  have htake := kept_takeMessage s now
  unfold look
  split
  next e s' h => rw [h] at htake; exact htake
  next message s' h => rw [h] at htake; exact htake
  next s' h =>
    rw [h] at htake
    split
    · exact htake
    · split
      · exact htake
      · exact htake.trans (kept_buffer rfl)

theorem kept_lastLook (s : Session ε) (now : Nat) : Kept s (s.lastLook now).2 := by
  have htake := kept_takeMessage s now
  unfold lastLook
  split
  next e s' h => rw [h] at htake; exact htake
  next message s' h => rw [h] at htake; exact htake
  next s' h => rw [h] at htake; exact htake

/-- A send hands its data over, and fires if that was the end of it. -/
theorem send_cases (s : Session ε) (data : Bytes) :
    s.send data = (.ok (), (s.transmit data).2.fire (.sent data)) ∨
      ∃ e, s.send data = (.error e, (s.transmit data).2) := by
  unfold send
  split
  next e s' h => exact .inr ⟨e, by rw [h]⟩
  next mode s' h =>
    split
    · exact .inl (by rw [h])
    next e _ => exact .inr ⟨e, by rw [h]⟩

theorem stays_send (s : Session ε) (data : Bytes) : Stays s (s.send data).2 := by
  have hkept := (kept_transmit s data).toStays
  rcases send_cases s data with h | ⟨e, h⟩
  · rw [h]
    exact hkept.trans (stays_fire (s.transmit data).2 (.sent data))
  · rw [h]
    exact hkept

theorem stays_dispatchAll (s : Session ε) (now : Nat) : Stays s (s.dispatchAll now).2 := by
  have hkept := (kept_takeMessage s now).toStays
  fun_induction dispatchAll s now with
  | case1 s message s' h _ n t hrest ih =>
    rw [h] at hkept
    rw [hrest] at ih
    exact (hkept.trans (stays_fire _ _)).trans (ih (kept_takeMessage _ now).toStays)
  | case2 s s' h =>
    rw [h] at hkept
    exact hkept
  | case3 s e s' h =>
    rw [h] at hkept
    exact hkept.trans (stays_fire s' (.exception e))

theorem stays_dispatch (s : Session ε) (now : Nat) : Stays s (s.dispatch now).2 := by
  unfold dispatch
  split
  · exact stays_dispatchAll s now
  · exact Stays.refl s

theorem kept_beat (s : Session ε) (now slot : Nat) : Kept s (s.beat now slot).2 := by
  unfold beat
  split
  · exact Kept.refl s
  next h hslot =>
    have hbeat : Kept s (s.setHeartbeat slot (h.beat now)) := kept_setHeartbeat hslot rfl
    have hsent := hbeat.trans (kept_transmit _ h.ping)
    dsimp only
    split
    next mode s' he => rw [he] at hsent; exact hsent
    next e s' he =>
      rw [he] at hsent
      -- What was sent has left a heartbeat with the same tokens in the place.
      have hplace : (s'.heartbeats[slot]?).map fixture = some (fixture h) := by
        rw [← List.getElem?_map, hsent.fixtures, List.getElem?_map, hslot]
        rfl
      obtain ⟨h', hslot', hfix⟩ := Option.map_eq_some_iff.mp hplace
      exact hsent.trans (kept_setHeartbeat hslot' hfix.symm)

/-- Closing ends an open session, and does nothing to one that is closed. -/
theorem close_cases (s : Session ε) :
    s.stage.isOpen = false ∧ s.close.2 = s ∨
      s.stage.isOpen = true ∧ ∃ writer tls, (s.tls = none → tls = none) ∧ s.close.2 =
        { s with
          writer, tls
          stage := .closed
          buffer := s.buffer.close
          events := s.events.fireDisconnect
          closeSignal := s.closeSignal.raise } := by
  unfold close
  split
  next hopen =>
    refine .inr ⟨hopen, ?_⟩
    cases htls : s.tls with
    | none => exact ⟨s.writer, s.tls, fun _ => htls, by simp only [fire, htls]⟩
    | some channel =>
      obtain ⟨writer, h⟩ := enqueue_eq { s with tls := some channel.closeNotify.2 }
        channel.closeNotify.1
      exact ⟨writer, some channel.closeNotify.2, fun hnone => (by cases hnone), by simp only [h, fire]⟩
  next hclosed => exact .inl ⟨Bool.eq_false_iff.mpr hclosed, rfl⟩

theorem grows_close (s : Session ε) : Grows s s.close.2 := by
  rcases close_cases s with ⟨-, h⟩ | ⟨-, writer, tls, hplain, h⟩
  · rw [h]
    exact (Stays.refl s).grows
  · rw [h]
    exact ⟨rfl, rfl, fun _ hslot => hslot, List.prefix_rfl, hplain⟩

end SessionEngine.Session
