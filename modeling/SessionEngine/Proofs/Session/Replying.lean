import SessionEngine.Proofs.Session.Deed
import SessionEngine.Proofs.Session.Sending

/-! What goes out when a session sends one thing after the other, with a TLS layer or without one. Where
everything goes out (`Sends`), the writer is handed the payloads in order (`taken_sendAll`) and the queue
grows by what was sent (`pending_sendAll`). -/

namespace SessionEngine

variable {ε : Type} [Tls.RecordEngine ε]

namespace Tls.Channel

/-- Plaintext is sealed, or held back until the handshake is over, whatever was written before. -/
def Takes (c : Channel ε) : Prop :=
  ∀ (pieces : List Bytes) (data : Bytes),
    ∃ payload, ((pieces.foldl (fun c piece => (c.wrap piece).2) c).wrap data).1 = .ok payload

theorem Takes.wrap {c : Channel ε} (h : c.Takes) (data : Bytes) :
    ∃ payload c', c.wrap data = (.ok payload, c') ∧ c'.Takes := by
  obtain ⟨payload, hpayload⟩ := h [] data
  exact ⟨payload, (c.wrap data).2, Prod.ext hpayload rfl, fun pieces => h (data :: pieces)⟩

/-- The payloads that pieces of plaintext go out as, one after the other. -/
def wraps (c : Channel ε) : List Bytes → List Bytes
  | [] => []
  | data :: rest =>
    match c.wrap data with
    | (.ok payload, c) => payload :: c.wraps rest
    | (.error _, c) => c.wraps rest

end Tls.Channel

namespace Session

variable {s : Session ε}

/-- Whatever is sent goes out. -/
structure Sends (s : Session ε) : Prop where
  stage : s.stage = .connected
  writer : s.writer.Works
  mode : s.writer.mode = .accept
  tls : ∀ channel ∈ s.tls, channel.Takes

theorem sends_of_plain (hplain : s.tls = none) (hstage : s.stage = .connected) (hwriter : s.writer.Works)
    (hmode : s.writer.mode = .accept) : s.Sends := by
  refine ⟨hstage, hwriter, hmode, fun channel htls => ?_⟩
  rw [hplain] at htls
  cases htls

/-- The payloads that messages go out as, one after the other. -/
def payloads (s : Session ε) (messages : List Bytes) : List Bytes :=
  match s.tls with
  | none => messages
  | some channel => channel.wraps messages

@[simp] theorem payloads_nil (s : Session ε) : s.payloads [] = [] := by
  unfold payloads
  split <;> rfl

def sendAll (s : Session ε) (messages : List Bytes) : Session ε :=
  messages.foldl (fun s data => (s.send data).2) s

/-- A message is handed over as the first of the payloads. -/
theorem Sends.transmit (h : s.Sends) (data : Bytes) :
    ∃ s', s.transmit data = (.ok .accept, s') ∧ s'.Sends ∧
      ∀ rest, s'.writer.taken ++ s'.payloads rest = s.writer.taken ++ s.payloads (data :: rest) := by
  cases htls : s.tls with
  | none =>
    rw [transmit_of_works htls h.stage h.writer, h.mode]
    refine ⟨_, rfl, ⟨h.stage, h.writer, h.mode, h.tls⟩, fun rest => ?_⟩
    simp only [payloads, htls, List.append_assoc, List.singleton_append]
  | some channel =>
    obtain ⟨payload, channel', hwrap, htakes⟩ := (h.tls channel htls).wrap data
    rw [Session.transmit, if_neg (fun hstage => hstage h.stage), htls]
    simp only [hwrap, enqueue, Writer.hand_of_works h.writer, h.mode]
    refine ⟨_, rfl, ⟨h.stage, h.writer, rfl, ?_⟩, fun rest => ?_⟩
    · rintro channel'' ⟨⟩
      exact htakes
    · simp only [payloads, htls, Tls.Channel.wraps, hwrap, List.append_assoc, List.singleton_append]

theorem Sends.send (h : s.Sends) (data : Bytes) :
    (s.send data).1 = .ok () ∧ (s.send data).2.Sends ∧
      ∀ rest, (s.send data).2.writer.taken ++ (s.send data).2.payloads rest =
        s.writer.taken ++ s.payloads (data :: rest) := by
  obtain ⟨s', htransmit, hsends, htaken⟩ := h.transmit data
  rw [Session.send, htransmit]
  exact ⟨rfl, ⟨hsends.stage, hsends.writer, hsends.mode, hsends.tls⟩, htaken⟩

theorem sends_sendAll (h : s.Sends) (messages : List Bytes) : (s.sendAll messages).Sends := by
  induction messages generalizing s with
  | nil => exact h
  | cons data rest ih => exact ih (h.send data).2.1

theorem taken_sendAll (h : s.Sends) (messages : List Bytes) :
    (s.sendAll messages).writer.taken = s.writer.taken ++ s.payloads messages := by
  induction messages generalizing s with
  | nil => rw [payloads_nil, List.append_nil]; rfl
  | cons data rest ih =>
    obtain ⟨-, hsends, htaken⟩ := h.send data
    exact (ih hsends).trans (htaken rest)

theorem pending_sendAll (h : s.Sends) (hopen : s.events.disconnected = false) (messages : List Bytes) :
    (s.sendAll messages).events.pending = s.events.pending ++ messages.map .sent := by
  induction messages generalizing s with
  | nil => rw [List.map_nil, List.append_nil]; rfl
  | cons data rest ih =>
    obtain ⟨hok, hsends, -⟩ := h.send data
    have hevents : (s.send data).2.events = s.events.push (.sent data) := by
      rw [events_send, if_pos hok]
      rfl
    have hlatch : (s.send data).2.events.disconnected = false := by
      rw [hevents, EventQueue.disconnected_push, hopen]
    refine (ih hsends hlatch).trans ?_
    rw [hevents, EventQueue.pending_push, hopen, List.append_assoc]
    rfl

/-! ### Events that were taken -/

/-- The session with events that were taken put back in front of its queue. -/
def behind (taken : List Event) (s : Session ε) : Session ε := { s with events := s.events.behind taken }

/-- What waits in the queue makes no difference to what is handed over. -/
theorem transmit_behind (taken : List Event) (s : Session ε) (data : Bytes) :
    (s.behind taken).transmit data = ((s.transmit data).1, (s.transmit data).2.behind taken) := by
  have henqueue (s : Session ε) (payload : Bytes) :
      (s.behind taken).enqueue payload = ((s.enqueue payload).1, (s.enqueue payload).2.behind taken) := by
    simp only [enqueue, behind]
    split <;> rfl
  unfold transmit
  simp only [show (s.behind taken).stage = s.stage from rfl, show (s.behind taken).tls = s.tls from rfl]
  split
  · rfl
  · split
    · exact henqueue s data
    next channel _ =>
      split
      · rfl
      next payload channel' _ => exact henqueue { s with tls := some channel' } payload

theorem send_behind (taken : List Event) (s : Session ε) (data : Bytes) :
    (s.behind taken).send data = ((s.send data).1, (s.send data).2.behind taken) := by
  unfold send
  rw [transmit_behind]
  rcases s.transmit data with ⟨e | mode, s'⟩
  · rfl
  · dsimp only
    rcases mode.result with e | ⟨⟩
    · rfl
    · simp only [fire, behind, EventQueue.push_behind]

theorem sendAll_behind (taken : List Event) (s : Session ε) (messages : List Bytes) :
    (s.behind taken).sendAll messages = (s.sendAll messages).behind taken := by
  induction messages generalizing s with
  | nil => rfl
  | cons data rest ih =>
    simp only [sendAll, List.foldl_cons, send_behind]
    exact ih (s.send data).2

end Session

end SessionEngine
