import SessionEngine.Proofs.Tls.Link
import SessionEngine.Proofs.Tls.Tagged

/-! The TLS layer as a stream of plaintext. Whatever two channels do on a link, the plaintext that one of
them has returned or received is what the other has wrapped, in order; when nothing is under way any
more, it is all of it (`tls_stream`). The reads of a handshake are acts of the link like all others
(`Link.Carried.drive`), so this holds of plaintext that comes with the handshake, and the loop in which a
channel works off its ciphertext ends with any engine (`Channel.loop_eq_digest`). -/

namespace SessionEngine.Tls

variable {ε : Type} [RecordEngine ε]

/-! ### The loop over the ciphertext -/

namespace Channel

/-- One turn of the loop, and how the loop ends if it ends with this turn. -/
def lap (c : Channel ε) : Option (Except Error Unit) × Channel ε :=
  if c.ciphertext = [] then (some (.ok ()), c)
  else match RecordEngine.accept c.engine c.ciphertext with
    | (.error cause, engine) => (some (.error (.read cause)), { c with engine })
    | (.ok n, engine) =>
      let (fault, engine) := RecordEngine.process engine
      let c := { c with engine, ciphertext := c.ciphertext.drop n }
      match fault with
      | some fault => (some (.error (c.failure fault)), c)
      | none =>
        match c.drain with
        | (.error e, c) => (some (.error e), c)
        | (.ok (), c) => (if n = 0 then some (.ok ()) else none, c)

/-- At most `turns` turns of the loop, and how it has ended if it has. -/
def loop : (turns : Nat) → Channel ε → Option (Except Error Unit) × Channel ε
  | 0, c => (none, c)
  | turns + 1, c =>
    match c.lap with
    | (none, c) => c.loop turns
    | (some result, c) => (some result, c)

/-- To work off what is pending is a turn of the loop, and what comes after it. -/
theorem digest_eq_lap (c : Channel ε) : c.digest c.ciphertext =
    match c.lap with
    | (none, c') => c'.digest c'.ciphertext
    | (some result, c') => (result, c') := by
  rw [digest, lap]
  by_cases hempty : c.ciphertext = []
  · rw [dif_pos hempty, if_pos hempty]
    simp only [← hempty]
  rw [dif_neg hempty, if_neg hempty]
  rcases RecordEngine.accept c.engine c.ciphertext with ⟨cause | n, engine⟩
  · rfl
  rcases hprocess : RecordEngine.process engine with ⟨_ | fault, engine'⟩
  · rcases hdrain : ({ c with engine := engine', ciphertext := c.ciphertext.drop n } : Channel ε).drain with
      ⟨e | ⟨⟩, c'⟩
    · simp only [hprocess, hdrain]
    · by_cases hn : n = 0
      · subst hn
        simp only [hprocess, hdrain, dif_pos, if_true]
      · simp only [hprocess, hdrain, dif_neg hn, if_neg hn]
        rw [ciphertext_of_drain hdrain]
  · simp only [hprocess]

theorem length_lap {c c' : Channel ε} (h : c.lap = (none, c')) :
    c'.ciphertext.length < c.ciphertext.length := by
  unfold lap at h
  split at h
  · cases h
  next hsome =>
    have hpos := List.length_pos_iff.mpr hsome
    split at h
    · cases h
    next n engine haccept =>
      rcases hprocess : RecordEngine.process engine with ⟨_ | fault, engine'⟩ <;> simp only [hprocess] at h
      · split at h
        · cases h
        next c'' hdrain =>
          simp only [Prod.mk.injEq, ite_eq_right_iff, reduceCtorEq, imp_false] at h
          obtain ⟨hn, rfl⟩ := h
          rw [ciphertext_of_drain hdrain]
          show (c.ciphertext.drop n).length < c.ciphertext.length
          rw [List.length_drop]
          omega
      · cases h

/-- With any engine and on any input the loop ends, within as many turns as there are bytes and one more. -/
theorem loop_eq_digest {turns : Nat} {c : Channel ε} (hturns : c.ciphertext.length < turns) :
    c.loop turns = (some (c.digest c.ciphertext).1, (c.digest c.ciphertext).2) := by
  induction turns generalizing c with
  | zero => exact absurd hturns (Nat.not_lt_zero _)
  | succ turns ih =>
    rw [digest_eq_lap, loop]
    split
    next c' hlap =>
      have hshorter := length_lap hlap
      exact ih (by omega)
    next result c' hlap => rfl

/-- What is left from before plays no part in working off what is pending. -/
theorem digest_withCiphertext (c : Channel ε) (left pending : Bytes) :
    ({ c with ciphertext := left } : Channel ε).digest pending = c.digest pending := by
  unfold digest
  rfl

theorem ingest_eq_loop (c : Channel ε) (data : Bytes) : ∃ result c',
    ({ c with ciphertext := c.ciphertext ++ data } : Channel ε).loop ((c.ciphertext ++ data).length + 1) =
        (some result, c') ∧
      c.ingest data = match result with
        | .ok () => c'.release
        | .error e => (.error e, c') := by
  refine ⟨_, _, loop_eq_digest (Nat.lt_succ_self _), ?_⟩
  rw [digest_withCiphertext, ingest]
  rcases c.digest (c.ciphertext ++ data) with ⟨_ | ⟨⟩, c'⟩ <;> rfl

/-! ### The turns of a handshake -/

theorem flush_done (c : Channel ε) (millis : Nat) {s : Stream} (hwrites : s.writes = []) :
    ∃ s', c.flush millis s = (.ok (), c.takeOutbound.2, s') ∧ s'.writes = [] ∧
      s'.offered.flatten = s.offered.flatten ++ c.takeOutbound.1 := by
  obtain ⟨out, c', hout⟩ : ∃ out c', c.takeOutbound = (out, c') := ⟨_, _, rfl⟩
  simp only [flush, hout]
  split
  next hempty =>
    rw [List.isEmpty_iff] at hempty
    exact ⟨s, rfl, hwrites, by rw [hempty, List.append_nil]⟩
  next =>
    refine ⟨(s.write out).2, ?_, ?_, ?_⟩
    · simp only [Stream.write, hwrites, List.headD_nil]
    · simp only [Stream.write, hwrites, List.tail_nil]
    · simp only [Stream.write, List.flatten_append, List.flatten_cons, List.flatten_nil, List.append_nil]

theorem drive_of_over {c c' : Channel ε} {millis : Nat} {s s' : Stream}
    (hflush : c.flush millis s = (.ok (), c', s')) (hover : c'.handshaking = false)
    (arrivals : List Arrival) : c.drive millis s arrivals = (.ok (), c', s') := by
  cases arrivals <;> simp [drive, hflush, hover]

theorem drive_nil {c c' : Channel ε} {millis : Nat} {s s' : Stream}
    (hflush : c.flush millis s = (.ok (), c', s')) (hgoesOn : c'.handshaking = true) :
    c.drive millis s [] = (.error (.timedOut millis), c', s') := by
  simp [drive, hflush, hgoesOn, Except.toBool]

theorem drive_cons {c c' c'' : Channel ε} {millis : Nat} {s s' : Stream}
    (hflush : c.flush millis s = (.ok (), c', s')) (hgoesOn : c'.handshaking = true) {arrival : Arrival}
    (hhear : c'.hear arrival = (.ok (), c'')) (rest : List Arrival) :
    c.drive millis s (arrival :: rest) = c''.drive millis s' rest := by
  rw [drive]
  simp [hflush, hgoesOn, hhear, Except.toBool]

end Channel

/-! ### Runs of a link -/

namespace Link

/-- The link is where a line of its engines can be. -/
def Carried (a b : ε) (k : Link ε) : Prop := ∃ l : Duplex ε, l.Reaches a b ∧ ∀ side, Carries (k side) (l side)

variable {a b : ε} {k : Link ε} {side : Role}

theorem carried_start (hab : Reliable a b) (m n : Nat) : Carried a b (start a b m n) := by
  refine ⟨Duplex.start a b, .start, fun side => ?_⟩
  have hdrained := hab.drained side
  cases side with
  | client => exact ⟨rfl, rfl, rfl, rfl, rfl, hdrained, fun _ => rfl, rfl⟩
  | server => exact ⟨rfl, rfl, rfl, rfl, rfl, hdrained, fun _ => rfl, rfl⟩

theorem Carried.act (hk : Carried a b k) (hab : Reliable a b) (side : Role) (act : Act) :
    Carried a b (k.act side act) := by
  obtain ⟨l, hl, hcarries⟩ := hk
  obtain ⟨t, ht, hreaches⟩ := (hcarries side).act hab hl act
  refine ⟨_, hreaches, fun r => ?_⟩
  by_cases hr : r = side
  · subst hr
    simp only [Link.act, if_true]
    rw [Duplex.post_set_self]
    exact ht
  · simp only [Link.act, if_neg hr]
    rw [Duplex.post_set_of_ne _ _ _ _ hr]
    have hother := hcarries r
    exact ⟨hother.engine, by rw [hother.inbox], hother.wrapped, hother.got, hother.ciphertext,
      hother.drained, hother.held, hother.sound⟩

theorem Carried.run (hk : Carried a b k) (hab : Reliable a b) (acts : List (Role × Act)) :
    Carried a b (k.run acts) := by
  induction acts generalizing k with
  | nil => exact hk
  | cons m acts ih => exact ih (hk.act hab m.1 m.2)

/-- Nothing that one side has wrapped is under way: the handshakes are over, its channel has nothing to send,
and all that it wrote was taken in. -/
structure Settled (k : Link ε) (side : Role) : Prop where
  greeted : ∀ r, (k r).channel.handshaking = false
  sent : (k side).channel.takeOutbound.1 = []
  heard : (k side.other).inbox = []

theorem Carried.ordered (hk : Carried a b k) (hab : Reliable a b) (side : Role) :
    (k side.other).returned ++ (k side.other).channel.received <+: (k side).wrapped := by
  obtain ⟨l, hl, hcarries⟩ := hk
  rw [← (hcarries side.other).got, (hcarries side).wrapped]
  exact (hab.ordered hl side).trans (List.prefix_append ..)

theorem Carried.complete (hk : Carried a b k) (hab : Reliable a b) (hsettled : k.Settled side) :
    (k side.other).returned ++ (k side.other).channel.received = (k side).wrapped := by
  obtain ⟨l, hl, hcarries⟩ := hk
  have hover : ∀ r, RecordEngine.handshaking (l r).engine = false := by
    intro r
    rw [(hcarries r).engine]
    exact hsettled.greeted r
  have hall := hab.complete hl side hover (by rw [(hcarries side).engine]; exact hsettled.sent)
    ((hcarries side.other).inbox.trans hsettled.heard)
    (by rw [(hcarries side.other).engine]; exact (hcarries side.other).drained)
  rw [← (hcarries side.other).got, (hcarries side).wrapped, hall,
    (hcarries side).held (hsettled.greeted side), List.append_nil]

theorem Carried.received_unwrap (hk : Carried a b k) (hab : Reliable a b) (side : Role) (size : Nat) :
    (k.act side (.unwrap size) side).channel.received = [] := by
  obtain ⟨l, hl, hcarries⟩ := hk
  obtain ⟨channel, -, hingest, -, -⟩ := (hcarries side).ingest hab hl (List.take_append_drop size _).symm
  simp [Link.act, Station.act, Channel.unwrap, hingest, Channel.takePlaintext]

theorem received_take (k : Link ε) (side : Role) : (k.act side .take side).channel.received = [] := by
  simp [Link.act, Station.act, Channel.takePlaintext]

/-! ### Handshakes -/

/-- The acts of a handshake whose reads give these pieces. -/
def handshakeActs (side : Role) : List Bytes → List (Role × Act)
  | [] => [(side, .flush)]
  | piece :: rest => (side, .flush) :: (side, .hear piece.length) :: handshakeActs side rest

/-- What a handshake of one side comes to: it has read `used`, as acts of the link, and it is over or goes on
waiting when there is nothing left to read. -/
structure Drives (k : Link ε) (side : Role) (millis : Nat) (s : Stream) (pieces used unread : List Bytes)
    (rest : Bytes) : Prop where
  split : pieces = used ++ unread
  inbox : (k.run (handshakeActs side used) side).inbox = unread.flatten ++ rest
  outcome : ∃ result s' out,
    (k side).channel.drive millis s (pieces.map .data) =
        (result, (k.run (handshakeActs side used) side).channel, s') ∧
      (k.run (handshakeActs side used) side.other).inbox = (k side.other).inbox ++ out ∧
      s'.offered.flatten = s.offered.flatten ++ out ∧
      (result = .ok () ∧ (k.run (handshakeActs side used) side).channel.handshaking = false ∨
        result = .error (.timedOut millis) ∧ unread = [] ∧
          (k.run (handshakeActs side used) side).channel.handshaking = true)

theorem act_hear (hk : Carried a b k) (hab : Reliable a b) {piece rest : Bytes} (hpiece : piece ≠ [])
    (hinbox : (k side).inbox = piece ++ rest) :
    (k side).channel.hear (.data piece) = (.ok (), (k.act side (.hear piece.length) side).channel) ∧
      (k.act side (.hear piece.length) side).inbox = rest ∧
      (k.act side (.hear piece.length) side.other).inbox = (k side.other).inbox := by
  obtain ⟨l, hl, hcarries⟩ := hk
  obtain ⟨channel, t, hingest, -, -⟩ := (hcarries side).ingest hab hl hinbox
  have htake : (k side).inbox.take piece.length = piece := by rw [hinbox, List.take_left]
  have hdrop : (k side).inbox.drop piece.length = rest := by rw [hinbox, List.drop_left]
  have hhear := Channel.hear_of_ingest hpiece hingest
  have hact : (k side).act (.hear piece.length) = ({ k side with channel, inbox := rest }, []) := by
    simp only [Station.act, htake, hdrop, hhear, List.isEmpty_iff, hpiece, if_false]
  refine ⟨?_, ?_, ?_⟩
  · simp only [Link.act, if_true, hact, hhear]
  · simp only [Link.act, if_true, hact]
  · simp only [Link.act, if_neg side.other_ne, hact, List.append_nil]

theorem act_flush (k : Link ε) (side : Role) :
    (k.act side .flush side).channel = (k side).channel.takeOutbound.2 ∧
      (k.act side .flush side).inbox = (k side).inbox ∧
      (k.act side .flush side.other).inbox = (k side.other).inbox ++ (k side).channel.takeOutbound.1 := by
  simp [Link.act, Station.act, side.other_ne]

/-- A handshake that reads what waits for its side is a run of flushes and of takings in. -/
theorem Carried.drive (hk : Carried a b k) (hab : Reliable a b) (side : Role) (millis : Nat)
    {pieces : List Bytes} {rest : Bytes} (hpieces : ∀ piece ∈ pieces, piece ≠ [])
    (hinbox : (k side).inbox = pieces.flatten ++ rest) {s : Stream} (hwrites : s.writes = []) :
    ∃ used unread, k.Drives side millis s pieces used unread rest := by
  -- The handshake may be over before any of the reads, and the reads that are left stay unread then.
  induction pieces generalizing k s with
  | nil =>
    obtain ⟨s', hflush, -, hoffered⟩ := (k side).channel.flush_done millis hwrites
    obtain ⟨hchannel, hinbox', hother⟩ := k.act_flush side
    rw [← hchannel] at hflush
    refine ⟨[], [], rfl, hinbox'.trans hinbox, ?_⟩
    cases hgoesOn : (k.act side .flush side).channel.handshaking with
    | false => exact ⟨_, s', _, Channel.drive_of_over hflush hgoesOn [], hother, hoffered, .inl ⟨rfl, hgoesOn⟩⟩
    | true =>
      exact ⟨_, s', _, Channel.drive_nil hflush hgoesOn, hother, hoffered, .inr ⟨rfl, rfl, hgoesOn⟩⟩
  | cons piece pieces ih =>
    obtain ⟨s', hflush, hwrites', hoffered⟩ := (k side).channel.flush_done millis hwrites
    obtain ⟨hchannel, hinbox', hother⟩ := k.act_flush side
    rw [← hchannel] at hflush
    cases hgoesOn : (k.act side .flush side).channel.handshaking with
    | false =>
      exact ⟨[], piece :: pieces, rfl, hinbox'.trans hinbox, _, s', _,
        Channel.drive_of_over hflush hgoesOn _, hother, hoffered, .inl ⟨rfl, hgoesOn⟩⟩
    | true =>
      have hflushed := hk.act hab side .flush
      have hnext : (k.act side .flush side).inbox = piece ++ (pieces.flatten ++ rest) := by
        rw [hinbox', hinbox, List.flatten_cons, List.append_assoc]
      obtain ⟨hhear, hrest, hother'⟩ := act_hear hflushed hab (hpieces piece List.mem_cons_self) hnext
      obtain ⟨used, unread, hsplit, hinbox'', result, s'', out, hdrive, hout, hoffered', hend⟩ :=
        ih (hflushed.act hab side (.hear piece.length)) (fun p hp => hpieces p (List.mem_cons_of_mem _ hp))
          hrest hwrites'
      refine ⟨piece :: used, unread, by rw [hsplit, List.cons_append], hinbox'', result, s'',
        (k side).channel.takeOutbound.1 ++ out, ?_, ?_, ?_, hend⟩
      · rw [List.map_cons, Channel.drive_cons hflush hgoesOn hhear]
        exact hdrive
      · rw [← List.append_assoc, ← hother, ← hother']
        exact hout
      · rw [hoffered', hoffered, List.append_assoc]

end Link

/-- Two channels with reliable engines, after any acts of both sides in any order: plaintext wrapped before
and after the handshake, and the bytes of either taken in by pieces of any size, in a handshake or after it.
Nothing fails. What a side has returned, with what it has received, is the beginning of what the other has
wrapped, and all of it when nothing is under way; what it returns it gives once. No ciphertext is left lying.
A handshake that reads what waits for its side is a part of such a run, and only waits if it does not end. And
with any engine, reliable or not, the loop in which a channel takes in ciphertext ends. -/
theorem tls_stream {a b : ε} (hab : Reliable a b) (m n : Nat) (acts : List (Role × Act)) :
    let k := (Link.start a b m n).run acts
    (∀ side, (k side).failed = false ∧ (k side).channel.ciphertext = []) ∧
      (∀ side, (k side.other).returned ++ (k side.other).channel.received <+: (k side).wrapped) ∧
      (∀ side, k.Settled side →
        (k side.other).returned ++ (k side.other).channel.received = (k side).wrapped) ∧
      (∀ side size, (k.act side (.unwrap size) side).channel.received = [] ∧
        (k.act side .take side).channel.received = []) ∧
      (∀ side millis pieces rest s, (∀ piece ∈ pieces, piece ≠ []) →
        (k side).inbox = pieces.flatten ++ rest → s.writes = [] →
        ∃ used unread, k.Drives side millis s pieces used unread rest) ∧
      ∀ (c : Channel ε) (data : Bytes), ∃ result c',
        ({ c with ciphertext := c.ciphertext ++ data } : Channel ε).loop ((c.ciphertext ++ data).length + 1) =
            (some result, c') ∧
          c.ingest data = match result with
            | .ok () => c'.release
            | .error e => (.error e, c') := by
  intro k
  have hk : Link.Carried a b k := (Link.carried_start hab m n).run hab acts
  refine ⟨fun side => ?_, hk.ordered hab, fun side => hk.complete hab, fun side size => ?_, ?_,
    Channel.ingest_eq_loop⟩
  · obtain ⟨l, -, hcarries⟩ := hk
    exact ⟨(hcarries side).sound, (hcarries side).ciphertext⟩
  · exact ⟨hk.received_unwrap hab side size, k.received_take side⟩
  · intro side millis pieces rest s hpieces hinbox hwrites
    exact hk.drive hab side millis hpieces hinbox hwrites

/-- The client wraps before it is greeted, and what it held back comes to the server in one read with its
greeting. What it wraps then comes in pieces that cut its records. -/
theorem tls_stream_tagged :
    let k := (Link.start ({} : Tagged) {} 0 1).run [(.client, .wrap [104, 105]), (.server, .flush),
      (.client, .hear 2), (.client, .flush), (.server, .hear 6), (.server, .take), (.client, .wrap [33, 63]),
      (.server, .unwrap 3), (.server, .unwrap 1)]
    k.Settled .client ∧ (k .server).returned ++ (k .server).channel.received = [104, 105, 33, 63] ∧
      (k .server).channel.received = [] := by
  intro k
  have hsettled : k.Settled .client :=
    ⟨fun r => by cases r <;> decide +kernel, by decide +kernel, by decide +kernel⟩
  have hall := (tls_stream Tagged.reliable 0 1 _).2.2.1 .client hsettled
  exact ⟨hsettled, hall.trans (by decide +kernel), by decide +kernel⟩

end SessionEngine.Tls
