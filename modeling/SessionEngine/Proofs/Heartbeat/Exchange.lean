import Mathlib.Data.List.Count
import SessionEngine.Proofs.Session.Beating
import SessionEngine.Proofs.Session.Limit

/-! Two sessions whose heartbeats talk to each other over a byte channel in each direction, which may deliver
what was written in any pieces. `Carries` reads the two channels and the two buffers as tokens: what one side
has written is what the other has heard and what is still on its way, and each ping that was heard was
answered. Every beat and every delivery keeps it, and so the pings of a side are accounted for at every
moment (`pings_conserved`). -/

namespace SessionEngine

variable {ε : Type}

/-! ### Tokens on their way -/

namespace Heartbeat

variable {h g : Heartbeat}

theorem bytes_congr (hping : g.ping = h.ping) (hpong : g.pong = h.pong) : g.bytes = h.bytes := by
  funext token
  cases token with
  | ping => exact hping
  | pong => exact hpong

theorem Distinct.injective (hd : h.Distinct) : Function.Injective h.bytes := by
  intro token token' heq
  apply hd.apart
  exact heq ▸ List.prefix_rfl

theorem flatMap_tokens (h : Heartbeat) (tokens : List Token) :
    (tokens.map Item.token).flatMap (Item.bytes h) = tokens.flatMap h.bytes := by
  rw [List.flatMap_map]
  rfl

/-- Stripping a piece of a stream of tokens takes off the first ones. -/
theorem strip_tokens (hd : h.Distinct) {tokens : List Token} {data future : Bytes}
    (hbytes : data ++ future = tokens.flatMap h.bytes) :
    ∃ rest, tokens = (h.strip data).1 ++ rest ∧ (h.strip data).2 ++ future = rest.flatMap h.bytes := by
  have hlegible : h.Legible (tokens.map .token) := by
    intro body hbody
    obtain ⟨token, -, heq⟩ := List.mem_map.mp hbody
    cases heq
  rw [← flatMap_tokens] at hbytes
  obtain ⟨items, hitems, hrest⟩ := strip_items hd hlegible hbytes
  obtain ⟨first, rest, rfl, hfirst, hlast⟩ := List.map_eq_append_iff.mp hitems
  obtain rfl := (List.map_inj_right fun _ _ heq => Item.token.inj heq).mp hfirst
  refine ⟨rest, rfl, ?_⟩
  rw [hrest, ← hlast, flatMap_tokens]

/-- A piece of a stream of tokens at whose head no token stands is a part of the next token. -/
theorem part_of_head? (hd : h.Distinct) {tokens : List Token} {data future : Bytes}
    (hhead : h.head? data = none) (hbytes : data ++ future = tokens.flatMap h.bytes) :
    ∃ token rest, rest ≠ [] ∧ h.bytes token = data ++ rest := by
  cases tokens with
  | nil =>
    obtain ⟨rfl, -⟩ := List.append_eq_nil_iff.mp hbytes
    exact ⟨.ping, h.ping, hd.nonempty .ping, rfl⟩
  | cons token tokens =>
    rw [← flatMap_tokens] at hbytes
    obtain ⟨rest, hrest⟩ := prefix_of_head? hd hhead hbytes
    refine ⟨token, rest, ?_, hrest.symm⟩
    rintro rfl
    rw [List.append_nil] at hrest
    apply (head?_eq_none_iff hd).mp hhead token
    exact hrest ▸ List.prefix_rfl

theorem eq_nil_of_head? (hd : h.Distinct) {tokens : List Token} {data : Bytes}
    (hhead : h.head? data = none) (hbytes : data = tokens.flatMap h.bytes) : tokens = [] := by
  cases tokens with
  | nil => rfl
  | cons token tokens =>
    exfalso
    apply (head?_eq_none_iff hd).mp hhead token
    rw [hbytes]
    exact List.prefix_append _ _

theorem alive_receive_of_mem {tokens : List Token} (hmem : .pong ∈ tokens) :
    (g.receive tokens).alive = true := by
  have hanswered : (g.answered || tokens.contains .pong) = true := by
    rw [List.contains_iff_mem.mpr hmem, Bool.or_true]
  cases hphase : g.phase <;> simp only [alive, receive, hphase, hanswered]

theorem alive_receive_of_notMem {tokens : List Token} (hmem : .pong ∉ tokens) :
    (g.receive tokens).alive = g.alive := by
  have hpong : tokens.contains .pong = false := by simpa using hmem
  simp only [alive, receive, hpong, Bool.or_false]

end Heartbeat

/-! ### Two ends -/

structure Peer (ε : Type) where
  session : Session ε
  /-- The payloads that the writer was handed in the exchange. -/
  written : List Bytes := []
  /-- The bytes on their way to this end. -/
  wire : Bytes := []
  /-- The segments that came off the buffer in the exchange. -/
  heard : List Segment := []

namespace Peer

/-- The tokens that are on their way to this end, or came in part. -/
def due (h : Heartbeat) (e : Peer ε) : List Token := (h.strip (e.session.buffer.contents ++ e.wire)).1

/-- The end has written the tokens `spoken` and heard the tokens `heard`, and the tokens `due` are on
their way to it. -/
structure Carries (h : Heartbeat) (spoken heard due : List Token) (e : Peer ε) : Prop where
  beats : ∃ slot g, e.session.Beating slot g ∧ g.ping = h.ping ∧ g.pong = h.pong ∧
    (g.alive = true ∨ heard.count .pong < spoken.count .ping)
  written : e.written = spoken.map h.bytes
  taken : e.heard = heard.map fun token => .token (h.bytes token)
  stream : e.session.buffer.contents ++ e.wire = due.flatMap h.bytes
  head : h.head? e.session.buffer.contents = none
  answers : spoken.count .pong = heard.count .ping

namespace Carries

variable {h : Heartbeat} {spoken heard due : List Token} {e : Peer ε}

theorem send (he : e.Carries h spoken heard due) (new : List Token) :
    ({ e with wire := e.wire ++ (new.map h.bytes).flatten } : Peer ε).Carries h spoken heard (due ++ new) where
  beats := he.beats
  written := he.written
  taken := he.taken
  stream := by
    rw [List.flatMap_append, ← he.stream, List.append_assoc]
    rfl
  head := he.head
  answers := he.answers

/-- What is on its way is what stripping finds in the buffer and on the wire. -/
theorem due_eq (hd : h.Distinct) (he : e.Carries h spoken heard due) : e.due h = due := by
  have hstream : (e.session.buffer.contents ++ e.wire) ++ [] = due.flatMap h.bytes := by
    rw [List.append_nil]
    exact he.stream
  obtain ⟨rest, hdue, hrest⟩ := Heartbeat.strip_tokens hd hstream
  rw [List.append_nil] at hrest
  rw [Heartbeat.eq_nil_of_head? hd (h.head?_strip _) hrest, List.append_nil] at hdue
  exact hdue.symm

theorem due_eq_nil (hd : h.Distinct) (he : e.Carries h spoken heard due) (hwire : e.wire = []) : due = [] := by
  have hstream := he.stream
  rw [hwire, List.append_nil] at hstream
  exact Heartbeat.eq_nil_of_head? hd he.head hstream

theorem count_written (hd : h.Distinct) (he : e.Carries h spoken heard due) (token : Token) :
    e.written.count (h.bytes token) = spoken.count token := by
  rw [he.written, List.count_map_of_injective _ _ hd.injective]

theorem count_heard (hd : h.Distinct) (he : e.Carries h spoken heard due) (token : Token) :
    e.heard.count (.token (h.bytes token)) = heard.count token := by
  have hinjective : Function.Injective fun token => Segment.token (h.bytes token) :=
    fun _ _ heq => hd.injective (Segment.token.inj heq)
  rw [he.taken, List.count_map_of_injective _ _ hinjective]

end Carries

end Peer

def Exchange (ε : Type) := Role → Peer ε

namespace Exchange

inductive Move where
  | beat (side : Role)
  | deliver (side : Role) (n : Nat)

/-- One end becomes `e`, and what its writer was handed by that goes on its way to the other end. -/
def become (x : Exchange ε) (side : Role) (e : Peer ε) : Exchange ε := fun place =>
  let payloads := e.session.writer.taken.drop (x side).session.writer.taken.length
  if place = side then { e with written := e.written ++ payloads }
  else { x place with wire := (x place).wire ++ payloads.flatten }

/-- Two sessions between which nothing was written yet. -/
def start (sessions : Role → Session ε) : Exchange ε := fun side => { session := sessions side }

/-- What is delivered fits into the buffer. -/
def Fits (x : Exchange ε) : Move → Prop
  | .beat _ => True
  | .deliver side n =>
    (x side).session.buffer.length + ((x side).wire.take n).length ≤ (x side).session.buffer.limit

instance (x : Exchange ε) (m : Move) : Decidable (x.Fits m) := by
  unfold Fits
  split <;> infer_instance

theorem become_self (x : Exchange ε) (side : Role) (e : Peer ε) : x.become side e side =
    { e with written := e.written ++
      e.session.writer.taken.drop (x side).session.writer.taken.length } := if_pos rfl

theorem become_of_ne (x : Exchange ε) {side place : Role} (e : Peer ε) (hne : place ≠ side) :
    x.become side e place = { x place with wire := (x place).wire ++
      (e.session.writer.taken.drop (x side).session.writer.taken.length).flatten } := if_neg hne

/-- The ends have spoken and heard tokens, and others are on their way to them; what one end has spoken is
what the other has heard and what is on its way. -/
structure Carries (h : Heartbeat) (spoken heard due : Role → List Token) (x : Exchange ε) : Prop where
  peers : ∀ side, (x side).Carries h (spoken side) (heard side) (due side)
  fifo : ∀ side, spoken side.other = heard side ++ due side

variable {h : Heartbeat} {spoken heard due : Role → List Token} {x : Exchange ε}

/-- Each ping was heard and answered, or is on its way, and each answer was heard or is on its way. -/
theorem Carries.conserves (hx : x.Carries h spoken heard due) (side : Role) :
    (spoken side).count .ping = (heard side).count .pong + (due side.other).count .ping +
      (due side).count .pong := by
  have hthere := hx.fifo side.other
  have hback := hx.fifo side
  have hanswers := (hx.peers side.other).answers
  rw [Role.other_other] at hthere
  rw [hback, List.count_append] at hanswers
  rw [hthere, List.count_append]
  omega

/-- One end hears what is due to it and speaks, and the other has more on its way. -/
theorem Carries.become (hx : x.Carries h spoken heard due) {side : Role} {e : Peer ε}
    (told new : List Token) {rest : List Token}
    (he : ({ e with written := e.written ++ new.map h.bytes } : Peer ε).Carries h (spoken side ++ new)
      (heard side ++ told) rest)
    (htaken : e.session.writer.taken = (x side).session.writer.taken ++ new.map h.bytes)
    (hdue : due side = told ++ rest) :
    ∃ spoken' heard' due', (x.become side e).Carries h spoken' heard' due' := by
  have hpayloads : e.session.writer.taken.drop (x side).session.writer.taken.length = new.map h.bytes := by
    rw [htaken, List.drop_left]
  refine ⟨fun place => if place = side then spoken place ++ new else spoken place,
    fun place => if place = side then heard place ++ told else heard place,
    fun place => if place = side then rest else due place ++ new, ?_, ?_⟩
  · intro place
    by_cases hplace : place = side
    · subst hplace
      simp only [if_true, become_self, hpayloads]
      exact he
    · simp only [if_neg hplace, become_of_ne x e hplace, hpayloads]
      exact (hx.peers place).send new
  · intro place
    have hfifo := hx.fifo place
    by_cases hplace : place = side
    · subst hplace
      simp only [if_neg place.other_ne, if_true, hfifo, hdue, List.append_assoc]
    · obtain rfl : place.other = side := Role.other_eq_of_ne hplace
      simp only [if_neg hplace, if_true, hfifo, List.append_assoc]

theorem carries_start (hd : h.Distinct) {sessions : Role → Session ε} {slot : Role → Nat}
    {g : Role → Heartbeat} (hbeating : ∀ side, (sessions side).Beating (slot side) (g side))
    (hping : ∀ side, (g side).ping = h.ping) (hpong : ∀ side, (g side).pong = h.pong)
    (halive : ∀ side, (g side).alive = true) (hempty : ∀ side, (sessions side).buffer.contents = []) :
    (start sessions).Carries h (fun _ => []) (fun _ => []) (fun _ => []) := by
  refine ⟨fun side => ⟨?_, rfl, rfl, ?_, ?_, rfl⟩, fun _ => rfl⟩
  · exact ⟨slot side, g side, hbeating side, hping side, hpong side, .inl (halive side)⟩
  · show (sessions side).buffer.contents ++ [] = []
    rw [hempty side]
    rfl
  · show h.head? (sessions side).buffer.contents = none
    rw [hempty side, Heartbeat.head?_eq_none_iff hd]
    intro token hprefix
    exact hd.nonempty token (List.prefix_nil.mp hprefix)

end Exchange

/-! ### What the ends do -/

variable [Tls.RecordEngine ε]

namespace Session

/-- A beat writes one ping, and says what the heartbeat knew before. -/
theorem beat_of_beating {s : Session ε} {slot : Nat} {g : Heartbeat} (hs : s.Beating slot g) (now : Nat) :
    (s.beat now slot).1 = g.alive ∧ (s.beat now slot).2.Beating slot (g.beat now) ∧
      (s.beat now slot).2.writer.taken = s.writer.taken ++ [g.ping] := by
  obtain ⟨hlt, -⟩ := List.getElem?_eq_some_iff.mp hs.heartbeat
  have htransmit := transmit_of_works (s := s.setHeartbeat slot (g.beat now)) hs.plain hs.stage hs.writer
    g.ping
  have hbeat : s.beat now slot = (g.alive, ((s.setHeartbeat slot (g.beat now)).transmit g.ping).2) := by
    simp only [beat, hs.heartbeat, htransmit]
  rw [hbeat, htransmit]
  exact ⟨rfl, ⟨hs.plain, hs.stage, hs.writer, hs.attached, List.getElem?_set_self hlt⟩, rfl⟩

theorem feed_of_fits {s : Session ε} (hplain : s.tls = none) {data : Bytes}
    (hfits : s.buffer.length + data.length ≤ s.buffer.limit) (now : Nat) :
    (s.feed now data).1 = .ok () := by
  obtain ⟨buffer, happend⟩ := Buffer.append_of_fits hfits now
  rw [feed, hplain]
  simp only [feedPlaintext, happend]

/-- A feed takes off the buffer the tokens that are stripped. -/
theorem outlay_feed_of_beating {s : Session ε} {slot : Nat} {g : Heartbeat} (hs : s.Beating slot g)
    {now : Nat} {data : Bytes} (hfeed : (s.feed now data).1 = .ok ()) : s.outlay now (.feed data) =
      (g.strip (s.buffer.contents ++ data)).1.map fun token => .token (g.bytes token) := by
  have hheartbeat : (s.withContents (s.buffer.contents ++ data)).heartbeat? = some g := hs.heartbeat?_eq
  simp only [outlay, hfeed, if_true, tokens, hheartbeat]
  rfl

end Session

namespace Peer

def beat (e : Peer ε) (now : Nat) : Peer ε :=
  match e.session.heartbeatSlot? with
  | none => e
  | some slot => { e with session := (e.session.beat now slot).2 }

/-- The first `n` bytes on their way are fed, or all of them if there are fewer. -/
def deliver (e : Peer ε) (now n : Nat) : Peer ε :=
  { e with
    session := (e.session.feed now (e.wire.take n)).2
    wire := e.wire.drop n
    heard := e.heard ++ e.session.outlay now (.feed (e.wire.take n)) }

end Peer

namespace Exchange

def move (x : Exchange ε) (now : Nat) : Move → Exchange ε
  | .beat side => x.become side ((x side).beat now)
  | .deliver side n => x.become side ((x side).deliver now n)

def run (x : Exchange ε) (moves : List (Nat × Move)) : Exchange ε :=
  moves.foldl (fun x m => x.move m.1 m.2) x

def Admits : Exchange ε → List (Nat × Move) → Prop
  | _, [] => True
  | x, (now, m) :: moves => x.Fits m ∧ (x.move now m).Admits moves

instance Admits.decide : (x : Exchange ε) → (moves : List (Nat × Move)) → Decidable (x.Admits moves)
  | _, [] => isTrue trivial
  | x, (now, m) :: moves =>
    have := Admits.decide (x.move now m) moves
    inferInstanceAs (Decidable (_ ∧ _))

variable {h : Heartbeat} {spoken heard due : Role → List Token} {x : Exchange ε}

theorem Carries.beat (hx : x.Carries h spoken heard due) (now : Nat) (side : Role) :
    ∃ spoken' heard' due', (x.move now (.beat side)).Carries h spoken' heard' due' := by
  have hpeer := hx.peers side
  obtain ⟨slot, g, hbeating, hping, hpong, -⟩ := hpeer.beats
  obtain ⟨-, hbeating', htaken⟩ := Session.beat_of_beating hbeating now
  have hbuffer := Session.buffer_beat (x side).session now slot
  have hbeat : (x side).beat now = { x side with session := ((x side).session.beat now slot).2 } := by
    simp only [Peer.beat, hbeating.attached]
  -- Of the pings so far no more were answered than were written, and this one was not.
  have hunanswered : (heard side ++ []).count Token.pong < (spoken side ++ [Token.ping]).count .ping := by
    have hconserves := hx.conserves side
    rw [List.append_nil, List.count_append]
    show _ < _ + 1
    omega
  rw [hping] at htaken
  rw [move, hbeat]
  refine hx.become [] [.ping] ⟨?_, ?_, ?_, ?_, ?_, ?_⟩ htaken rfl
  · exact ⟨slot, g.beat now, hbeating', hping, hpong, .inr hunanswered⟩
  · show (x side).written ++ _ = _
    rw [hpeer.written, List.map_append]
  · rw [List.append_nil]
    exact hpeer.taken
  · show ((x side).session.beat now slot).2.buffer.contents ++ (x side).wire = _
    rw [hbuffer]
    exact hpeer.stream
  · show h.head? ((x side).session.beat now slot).2.buffer.contents = none
    rw [hbuffer]
    exact hpeer.head
  · rw [List.append_nil, List.count_append]
    exact hpeer.answers

theorem Carries.deliver (hd : h.Distinct) (hx : x.Carries h spoken heard due) (now : Nat) {side : Role}
    {n : Nat} (hfits : x.Fits (.deliver side n)) :
    ∃ spoken' heard' due', (x.move now (.deliver side n)).Carries h spoken' heard' due' := by
  have hpeer := hx.peers side
  obtain ⟨slot, g, hbeating, hping, hpong, halive⟩ := hpeer.beats
  have hfeed := Session.feed_of_fits hbeating.plain hfits now
  obtain ⟨hhears, hcontents⟩ := Session.hears_feed hbeating hfeed
  have houtlay := Session.outlay_feed_of_beating hbeating hfeed
  rw [Heartbeat.strip_congr hping hpong] at hhears hcontents houtlay
  rw [Heartbeat.bytes_congr hping hpong] at houtlay
  -- What comes in and what is still on its way are the tokens that were on their way.
  have hstream : ((x side).session.buffer.contents ++ (x side).wire.take n) ++ (x side).wire.drop n =
      (due side).flatMap h.bytes := by
    rw [List.append_assoc, List.take_append_drop]
    exact hpeer.stream
  obtain ⟨rest, hdue, hrest⟩ := Heartbeat.strip_tokens hd hstream
  generalize htold : (h.strip ((x side).session.buffer.contents ++ (x side).wire.take n)).1 = told
    at hhears houtlay hdue
  have htaken := hhears.taken
  rw [show g.pong = h.bytes .pong from hpong, ← List.map_replicate] at htaken
  refine hx.become told (List.replicate (told.count Token.ping) .pong) ⟨?_, ?_, ?_, ?_, ?_, ?_⟩ htaken hdue
  · refine ⟨slot, g.receive told, hhears.beating, hping, hpong, ?_⟩
    rw [List.count_append, List.count_append]
    by_cases hanswer : .pong ∈ told
    · exact .inl (Heartbeat.alive_receive_of_mem hanswer)
    · rw [Heartbeat.alive_receive_of_notMem hanswer, List.count_eq_zero.mpr hanswer]
      exact halive.imp_right fun hlt => Nat.lt_add_right _ hlt
  · show (x side).written ++ _ = _
    rw [hpeer.written, List.map_append]
  · show (x side).heard ++ _ = _
    rw [hpeer.taken, houtlay, List.map_append]
  · show ((x side).session.feed now _).2.buffer.contents ++ (x side).wire.drop n = _
    rw [hcontents]
    exact hrest
  · show h.head? ((x side).session.feed now _).2.buffer.contents = none
    rw [hcontents]
    exact h.head?_strip _
  · rw [List.count_append, List.count_append, hpeer.answers, List.count_replicate_self]

theorem Carries.move (hd : h.Distinct) (hx : x.Carries h spoken heard due) (now : Nat) {m : Move}
    (hfits : x.Fits m) : ∃ spoken' heard' due', (x.move now m).Carries h spoken' heard' due' := by
  cases m with
  | beat side => exact hx.beat now side
  | deliver side n => exact hx.deliver hd now hfits

theorem Carries.run (hd : h.Distinct) (hx : x.Carries h spoken heard due) {moves : List (Nat × Move)}
    (hfits : x.Admits moves) : ∃ spoken' heard' due', (x.run moves).Carries h spoken' heard' due' := by
  induction moves generalizing x spoken heard due with
  | nil => exact ⟨spoken, heard, due, hx⟩
  | cons m moves ih =>
    obtain ⟨spoken', heard', due', hx'⟩ := hx.move hd m.1 hfits.1
    exact ih hx' hfits.2

/-- Where nothing is on the wire on either side, each ping was answered and the next beat says so. -/
theorem Carries.alive (hd : h.Distinct) (hx : x.Carries h spoken heard due)
    (hwires : ∀ place, (x place).wire = []) (side : Role) :
    ∃ slot, (x side).session.heartbeatSlot? = some slot ∧
      ∀ now, ((x side).session.beat now slot).1 = true := by
  obtain ⟨slot, g, hbeating, -, -, halive⟩ := (hx.peers side).beats
  have hconserves := hx.conserves side
  rw [(hx.peers side).due_eq_nil hd (hwires side),
    (hx.peers side.other).due_eq_nil hd (hwires side.other)] at hconserves
  refine ⟨slot, hbeating.attached, ?_⟩
  intro now
  rw [(Session.beat_of_beating hbeating now).1]
  apply halive.resolve_right
  rw [hconserves]
  exact Nat.lt_irrefl _

/-- Two connected sessions that attached heartbeats with the same tokens exchange nothing but those. In
whatever order they beat, and however their tokens are cut, each ping of a side was answered to it, or it or
its answer is still on its way; each ping that was heard was answered once; what was written is what was heard
and what is on its way, in order; a buffer holds a proper part of a token; and when nothing is on the wire,
the next beat finds the other side alive. -/
theorem pings_conserved (hd : h.Distinct) {sessions : Role → Session ε} {slot : Role → Nat}
    {g : Role → Heartbeat} (hbeating : ∀ side, (sessions side).Beating (slot side) (g side))
    (hping : ∀ side, (g side).ping = h.ping) (hpong : ∀ side, (g side).pong = h.pong)
    (halive : ∀ side, (g side).alive = true) (hempty : ∀ side, (sessions side).buffer.contents = [])
    {moves : List (Nat × Move)} (hfits : (start sessions).Admits moves) (side : Role) :
    let x := (start sessions).run moves
    (x side).written.count h.ping =
        (x side).heard.count (.token h.pong) + ((x side.other).due h).count .ping +
          ((x side).due h).count .pong ∧
      (x side).written.count h.pong = (x side).heard.count (.token h.ping) ∧
      (x side.other).written.map Segment.token =
        (x side).heard ++ ((x side).due h).map (fun token => .token (h.bytes token)) ∧
      (x side).session.buffer.contents ++ (x side).wire = ((x side).due h).flatMap h.bytes ∧
      (∃ token rest, rest ≠ [] ∧ h.bytes token = (x side).session.buffer.contents ++ rest) ∧
      ((∀ place, (x place).wire = []) → ∃ slot, (x side).session.heartbeatSlot? = some slot ∧
        ∀ now, ((x side).session.beat now slot).1 = true) := by
  intro x
  obtain ⟨spoken, heard, due, hx⟩ :=
    (carries_start hd hbeating hping hpong halive hempty).run hd hfits
  have hpeer := hx.peers side
  have hother := hx.peers side.other
  rw [hpeer.due_eq hd, hother.due_eq hd]
  refine ⟨?_, ?_, ?_, hpeer.stream, ?_, fun hwires => hx.alive hd hwires side⟩
  · have hpings := hpeer.count_written hd .ping
    have hpongs := hpeer.count_heard hd .pong
    exact hpings.trans (hpongs ▸ hx.conserves side)
  · have hpongs := hpeer.count_written hd .pong
    have hpings := hpeer.count_heard hd .ping
    exact hpongs.trans (hpeer.answers.trans hpings.symm)
  · rw [hother.written, hpeer.taken, hx.fifo side, List.map_map, List.map_append]
    rfl
  · exact Heartbeat.part_of_head? hd hpeer.head hpeer.stream

/-- Both sides beat, the pings come in pieces, and the server beats again while half of the pong that answers
its first ping is on its way. -/
theorem pings_conserved_cut_tokens :
    let h : Heartbeat := .new [80, 73] [80, 79] .initiator
    let sessions : Role → Session Empty := fun side =>
      (Session.new 0 { Settings.server "localhost" 6380 with role := side, handled := true } .line).run
        [(0, .installWriter), (0, .establish), (0, .attach [80, 73] [80, 79] (.ofRole side))]
    let moves : List (Nat × Move) := [.beat .server, .beat .client, .deliver .client 1, .deliver .client 1,
      .deliver .server 3, .beat .server].map (0, ·)
    let x := (start sessions).run moves
    (h.Distinct ∧ (start sessions).Admits moves) ∧
      (x .server).written = [[80, 73], [80, 79], [80, 73]] ∧
      (x .server).written.count h.ping =
        (x .server).heard.count (.token h.pong) + ((x .client).due h).count .ping +
          ((x .server).due h).count .pong ∧
      ((x .client).due h, (x .server).due h) = ([.pong, .ping], [.pong]) ∧
      (∃ token rest, rest ≠ [] ∧ h.bytes token = (x .server).session.buffer.contents ++ rest) ∧
      (x .server).session.buffer.contents = [80] := by
  intro h sessions moves x
  have hdistinct : h.Distinct := by
    refine ⟨fun t => ?_, fun {t t'} => ?_⟩
    · cases t <;> decide
    · cases t <;> cases t' <;> decide
  have hbeating : ∀ side, (sessions side).Beating 0 (.new [80, 73] [80, 79] (.ofRole side)) := by
    intro side
    cases side <;> exact ⟨rfl, rfl, ⟨rfl, rfl⟩, by decide +kernel, by decide +kernel⟩
  have hempty : ∀ side, (sessions side).buffer.contents = [] := by
    intro side
    cases side <;> rfl
  have hadmits : (start sessions).Admits moves := by decide +kernel
  obtain ⟨hcount, -, -, -, hpart, -⟩ := pings_conserved hdistinct hbeating (fun _ => rfl) (fun _ => rfl)
    (fun _ => rfl) hempty hadmits .server
  have hx : (start sessions).run moves = x := rfl
  have hother : Role.server.other = .client := rfl
  rw [hx, hother] at hcount
  rw [hx] at hpart
  have hwritten : (x .server).written = [[80, 73], [80, 79], [80, 73]] := by decide +kernel
  have hdue : ((x .client).due h, (x .server).due h) = ([.pong, .ping], [.pong]) := by decide +kernel
  have hbuffer : (x .server).session.buffer.contents = [80] := by decide +kernel
  exact ⟨⟨hdistinct, hadmits⟩, hwritten, hcount, hdue, hpart, hbuffer⟩

end Exchange

end SessionEngine
