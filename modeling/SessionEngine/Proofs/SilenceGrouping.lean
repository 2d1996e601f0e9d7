import SessionEngine.Proofs.Course.Reader
import SessionEngine.Proofs.Session.Pausing
import SessionEngine.Proofs.Timing.Bursts

/-! What a read loop makes of the times at which chunks arrive, when its session cuts by silence: one
message of each burst. `Collects` says what was fired and what is held; a chunk that comes in time is held
with the others, and a read that times out fires what is held. -/

namespace SessionEngine

variable {ε : Type}

/-- Nothing that is fired in an open queue is lost, but a second connect. -/
theorem EventQueue.messages_foldl {q : EventQueue} {es : List Event} (hqueue : q.disconnected = false)
    (hopen : .disconnect ∉ es) : (es.foldl EventQueue.fire q).pending.filterMap Event.message? =
      q.pending.filterMap Event.message? ++ es.filterMap Event.message? := by
  induction es generalizing q with
  | nil => exact (List.append_nil _).symm
  | cons e es ih =>
    rw [List.mem_cons, not_or] at hopen
    have hfire : (q.fire e).disconnected = false := by
      rw [Bool.eq_false_iff, ne_eq, disconnected_fire, not_or]
      exact ⟨Bool.eq_false_iff.mp hqueue, hopen.1⟩
    have hpending : (q.fire e).pending.filterMap Event.message? =
        q.pending.filterMap Event.message? ++ [e].filterMap Event.message? := by
      rw [pending_fire, List.filterMap_append]
      by_cases hconnect : e = .connect
      · subst hconnect
        split <;> rfl
      · rw [if_pos ⟨hqueue, fun h => absurd h hconnect⟩]
    rw [List.foldl_cons, ih hfire hopen.2, hpending, List.append_assoc, ← List.filterMap_append]
    rfl

/-- The messages that bursts make. -/
def joined (groups : List (List Arrival)) : List Bytes := groups.map fun group => group.flatMap Prod.snd

namespace Course

/-- Of the arrivals so far `gone` went to the handler, a message for each burst, and the buffer holds
`held`, to which the read that was begun at `armed` may add. -/
structure Collects (timeout armed : Nat) (gone held : List Arrival) (c : Course μ ε) : Prop where
  grouped : Grouped timeout armed gone held
  chunks : ∀ a ∈ held, a.2 ≠ []
  pausing : c.session.Pausing timeout
  contents : c.session.buffer.contents = held.flatMap Prod.snd
  arrival : held ≠ [] → c.session.buffer.lastArrival = some armed
  messages : c.fired.filterMap Event.message? = joined (bursts timeout gone)

variable {timeout armed : Nat} {gone held : List Arrival} {c c' : Course μ ε}

theorem Collects.aside (hc : c.Collects timeout armed gone held) (h : c.Aside c') :
    c'.Collects timeout armed gone held :=
  ⟨hc.grouped, hc.chunks, hc.pausing.of_grows h.grows, h.contents.trans hc.contents,
    fun hheld => h.arrival.trans (hc.arrival hheld), h.messages.trans hc.messages⟩

theorem Collects.holding (hc : c.Collects timeout armed gone held) (hheld : held ≠ []) :
    c.session.Holding armed := by
  refine ⟨?_, hc.arrival hheld⟩
  obtain ⟨a, rest, rfl⟩ := List.exists_cons_of_ne_nil hheld
  rw [hc.contents, List.flatMap_cons]
  exact List.append_ne_nil_of_left_ne_nil (hc.chunks a List.mem_cons_self) _

end Course

variable [Tls.RecordEngine ε]

namespace Reader

variable {timeout stop armed : Nat} {gone held arrivals : List Arrival} {r : Reader μ ε}

/-! ### What the end of a read comes to -/

/-- A chunk that makes no message whole is buffered. -/
theorem pass_data_of_none (hplain : r.course.session.tls = none)
    (hbare : r.course.session.heartbeatSlot? = none) (hrunning : r.running = true) {time : Nat}
    {bytes : Bytes} {buffer : Buffer} (happend : r.course.session.buffer.append time bytes = .ok buffer)
    (hnone : ({ r.course.session with buffer } : Session ε).takeMessage time =
      (.ok none, { r.course.session with buffer })) :
    (∃ closeSignal, (r.pass time (.data bytes)).course.session =
        { r.course.session with buffer, closeSignal }) ∧
      (r.pass time (.data bytes)).course.fired = r.course.fired := by
  have hfeed := Session.feed_of_bare hplain hbare time bytes
  rw [happend] at hfeed
  have hperform : r.course.session.perform time (.feed bytes) = { r.course.session with buffer } :=
    congrArg Prod.snd hfeed
  obtain ⟨hdispatch, hfires⟩ := Session.dispatch_of_none hnone
  have hidle : ({ r.course.session with buffer } : Session ε).perform time .dispatch =
      { r.course.session with buffer } := congrArg Prod.snd hdispatch
  have hdeeds : r.loop.deeds time (.data bytes) = [.feed bytes, .dispatch] := by
    have hloop : (r.loop.session.feed time bytes).1 = .ok () := congrArg Prod.fst hfeed
    simp only [ReadLoop.deeds, hloop]
  obtain ⟨closeSignal, hsession⟩ := session_pass hrunning time (.data bytes)
  rw [Course.session_performAll, hdeeds, List.foldl_cons, List.foldl_cons, List.foldl_nil, hperform,
    hidle] at hsession
  refine ⟨⟨closeSignal, hsession⟩, ?_⟩
  rw [fired_pass hrunning, hdeeds]
  simp only [Course.performAll, List.foldl_cons, List.foldl_nil, Course.perform, hperform, hfires,
    List.append_nil]
  exact List.append_nil _

/-- A read that times out with no message whole makes the session idle. -/
theorem pass_timedOut_of_none (hrunning : r.running = true) {time : Nat}
    (hnone : r.course.session.takeMessage time = (.ok none, r.course.session)) :
    (∃ closeSignal, (r.pass time .timedOut).course.session =
        { r.course.session.fire .idle with closeSignal }) ∧
      (r.pass time .timedOut).course.fired = r.course.fired ++ [.idle] := by
  obtain ⟨hdispatch, hfires⟩ := Session.dispatch_of_none hnone
  have hidle : r.course.session.perform time .dispatch = r.course.session :=
    congrArg Prod.snd hdispatch
  have hdeeds : r.loop.deeds time .timedOut = [.dispatch, .fire .idle] := by
    have hzero : (r.loop.session.dispatch time).1 = 0 := congrArg Prod.fst hdispatch
    rw [ReadLoop.deeds, if_pos hzero]
  obtain ⟨closeSignal, hsession⟩ := session_pass hrunning time .timedOut
  rw [Course.session_performAll, hdeeds, List.foldl_cons, List.foldl_cons, List.foldl_nil, hidle]
    at hsession
  refine ⟨⟨closeSignal, hsession⟩, ?_⟩
  rw [fired_pass hrunning, hdeeds]
  simp only [Course.performAll, List.foldl_cons, List.foldl_nil, Course.perform, hfires, List.append_nil]
  rfl

/-- A read that times out behind a silence that is long enough hands over what is buffered. -/
theorem pass_timedOut_of_silent (hpausing : r.course.session.Pausing timeout)
    (hbare : r.course.session.heartbeatSlot? = none) (hrunning : r.running = true) {last time : Nat}
    (hheld : r.course.session.Holding last) (hsilent : timeout ≤ time - last) :
    (∃ closeSignal, (r.pass time .timedOut).course.session =
        { (r.course.session.withContents []).fire (.receive r.course.session.buffer.contents) with
          closeSignal }) ∧
      (r.pass time .timedOut).course.fired =
        r.course.fired ++ [.receive r.course.session.buffer.contents] := by
  obtain ⟨hdispatch, hfires⟩ := Session.dispatch_of_silent hpausing hbare hheld hsilent
  have hperform : r.course.session.perform time .dispatch =
      (r.course.session.withContents []).fire (.receive r.course.session.buffer.contents) :=
    congrArg Prod.snd hdispatch
  have hdeeds : r.loop.deeds time .timedOut = [.dispatch] := by
    have hone : (r.loop.session.dispatch time).1 = 1 := congrArg Prod.fst hdispatch
    rw [ReadLoop.deeds, if_neg (by omega)]
  obtain ⟨closeSignal, hsession⟩ := session_pass hrunning time .timedOut
  rw [Course.session_performAll, hdeeds, List.foldl_cons, List.foldl_nil, hperform] at hsession
  refine ⟨⟨closeSignal, hsession⟩, ?_⟩
  rw [fired_pass hrunning, hdeeds]
  simp only [Course.performAll, List.foldl_cons, List.foldl_nil, Course.perform, hfires]

/-! ### What is collected -/

/-- A chunk that comes before the read times out is held with the others. -/
theorem collects_data (hpos : 0 < timeout) (hc : r.course.Collects timeout armed gone held)
    (hbare : r.course.session.heartbeatSlot? = none) {time : Nat} {bytes : Bytes} (hbytes : bytes ≠ [])
    (hafter : armed ≤ time) (hsoon : time ≤ armed + timeout)
    (hgap : ∀ a ∈ held.getLast?, time ≠ a.1 + timeout)
    (hrunning : (r.pass time (.data bytes)).running = true) :
    (r.pass time (.data bytes)).course.Collects timeout time gone (held ++ [(time, bytes)]) := by
  have hok := feed_of_running hrunning
  cases happend : r.course.session.buffer.append time bytes with
  | error cause =>
    rw [Session.feed_of_bare hc.pausing.plain hbare, happend] at hok
    cases hok
  | ok buffer =>
    have hcontents : buffer.contents = held.flatMap Prod.snd ++ bytes := by
      rw [Buffer.contents_append happend, hc.contents]
    have harrival : buffer.lastArrival = some time := Buffer.lastArrival_append happend hbytes
    have hpausing : ({ r.course.session with buffer } : Session ε).Pausing timeout :=
      ⟨hc.pausing.plain, hc.pausing.splitter, hc.pausing.handled, hc.pausing.window⟩
    have hholding : ({ r.course.session with buffer } : Session ε).Holding time :=
      ⟨hcontents ▸ List.append_ne_nil_of_right_ne_nil _ hbytes, harrival⟩
    -- The chunk has just come: no silence is behind it yet.
    have hwait : time - time < r.course.session.settings.readTimeout := by
      rw [hc.pausing.window]
      omega
    obtain ⟨⟨closeSignal, hsession⟩, hfired⟩ := pass_data_of_none hc.pausing.plain hbare
      (running_of_pass hrunning) happend (Session.takeMessage_of_waiting hpausing.splitter hholding hwait)
    refine ⟨hc.grouped.push hafter hsoon hgap, ?_, hc.pausing.of_grows (r.grows_pass _ _), ?_, ?_, ?_⟩
    · intro a ha
      rcases List.mem_append.mp ha with ha | ha
      · exact hc.chunks a ha
      · obtain rfl := List.mem_singleton.mp ha
        exact hbytes
    · rw [hsession, List.flatMap_append, List.flatMap_singleton]
      exact hcontents
    · intro _
      rw [hsession]
      exact harrival
    · rw [hfired]
      exact hc.messages

/-- A read that times out fires what is held. -/
theorem collects_timedOut (hc : r.course.Collects timeout armed gone held)
    (hbare : r.course.session.heartbeatSlot? = none) (hrunning : r.running = true) :
    (r.pass (armed + timeout) .timedOut).course.Collects timeout (armed + timeout) (gone ++ held) [] := by
  have hpausing := hc.pausing.of_grows (r.grows_pass (armed + timeout) .timedOut)
  by_cases hheld : held = []
  · subst hheld
    obtain ⟨⟨closeSignal, hsession⟩, hfired⟩ := pass_timedOut_of_none hrunning
      (Session.takeMessage_of_empty hc.contents (armed + timeout))
    rw [List.append_nil]
    refine ⟨hc.grouped.wait, hc.chunks, hpausing, ?_, by simp, ?_⟩
    · rw [hsession]
      exact hc.contents
    · rw [hfired, List.filterMap_append, hc.messages]
      exact List.append_nil _
  · have hsilent : timeout ≤ armed + timeout - armed := by omega
    obtain ⟨⟨closeSignal, hsession⟩, hfired⟩ :=
      pass_timedOut_of_silent hc.pausing hbare hrunning (hc.holding hheld) hsilent
    refine ⟨hc.grouped.flush hheld, by simp, hpausing, ?_, by simp, ?_⟩
    · rw [hsession]
      rfl
    · have hjoined : joined (bursts timeout gone ++ [held]) =
          joined (bursts timeout gone) ++ [held.flatMap Prod.snd] := List.map_append
      rw [hfired, List.filterMap_append, hc.messages, hc.contents, hc.grouped.bursts_append hheld,
        hjoined]
      rfl

/-- What is held when the reads are over that take in all arrivals. -/
theorem collects_run (hpos : 0 < timeout) (h : Handler μ ε) {turns : List (Nat × Turn)}
    (hc : r.course.Collects timeout armed gone held)
    (hgaps : (held ++ arrivals).IsChain fun a b : Arrival => b.1 ≠ a.1 + timeout)
    (hchunks : ∀ a ∈ arrivals, a.2 ≠ [])
    (hpasses : Unfolds timeout stop armed arrivals (passes turns))
    (hothers : ∀ t ∈ turns, ∀ d ∈ t.2.deed?, d.IsAnswer)
    (hrunning : (r.run h turns).running = true)
    (hbare : (r.run h turns).course.session.heartbeatSlot? = none) :
    ∃ armed' gone' held', gone' ++ held' = gone ++ held ++ arrivals ∧ stop < armed' + timeout ∧
      (r.run h turns).course.Collects timeout armed' gone' held' := by
  induction turns generalizing r armed gone held arrivals with
  | nil =>
    cases hpasses with
    | done hstop => exact ⟨armed, gone, held, (List.append_nil _).symm, hstop, hc⟩
  | cons t turns ih =>
    obtain ⟨now, t⟩ := t
    have hlater : ∀ t ∈ turns, ∀ d ∈ t.2.deed?, d.IsAnswer :=
      fun t' ht' => hothers t' (List.mem_cons_of_mem _ ht')
    have hrunning' : (r.turn h now t).running = true := running_of_run hrunning
    have hbare' : r.course.session.heartbeatSlot? = none :=
      (r.grows_run h ((now, t) :: turns)).bare hbare
    cases t with
    | move m =>
      have haside : r.course.Aside (r.course.move h now m) := by
        cases m with
        | deed d => exact Course.aside_perform hc.pausing.plain (hothers _ List.mem_cons_self d rfl) now
        | tell => exact r.course.aside_tell h
        | act => exact Course.aside_act hc.pausing.plain now
      exact ih (hc.aside haside) hgaps hchunks hpasses hlater hrunning hbare
    | pass outcome =>
      have hbefore : r.running = true := running_of_pass hrunning'
      change Unfolds timeout stop armed arrivals ((now, outcome) :: passes turns) at hpasses
      cases hpasses with
      | @chunk _ _ bytes rest _ hafter hsoon hrest =>
        rw [List.isChain_append] at hgaps
        have hgap : ∀ a ∈ held.getLast?, now ≠ a.1 + timeout :=
          fun a ha => hgaps.2.2 a ha (now, bytes) (by simp)
        have hdata := collects_data hpos hc hbare' (hchunks _ List.mem_cons_self) hafter hsoon hgap
          hrunning'
        have hgaps' : (held ++ [(now, bytes)] ++ rest).IsChain
            fun a b : Arrival => b.1 ≠ a.1 + timeout := by
          rw [List.append_assoc, List.singleton_append, List.isChain_append]
          exact hgaps
        obtain ⟨armed', gone', held', hall, hstop, hcollects⟩ := ih hdata hgaps'
          (fun a ha => hchunks a (List.mem_cons_of_mem _ ha)) hrest hlater hrunning hbare
        refine ⟨armed', gone', held', ?_, hstop, hcollects⟩
        rw [hall]
        simp only [List.append_assoc, List.singleton_append]
      | silence hnone hstop hrest =>
        have htimedOut := collects_timedOut hc hbare' hbefore
        have hgaps' : ([] ++ arrivals).IsChain fun a b : Arrival => b.1 ≠ a.1 + timeout :=
          (List.isChain_append.mp hgaps).2.1
        obtain ⟨armed', gone', held', hall, hstop, hcollects⟩ :=
          ih htimedOut hgaps' hchunks hrest hlater hrunning hbare
        exact ⟨armed', gone', held', by rw [hall, List.append_nil], hstop, hcollects⟩

/-- A loop that begins with an empty buffer has collected nothing yet. -/
theorem collects_start {s : Session ε} (hs : s.Pausing timeout) (hempty : s.buffer.contents = [])
    (dispatcher : Dispatcher μ ε) (traffic : Traffic) (armed : Nat) :
    (start s dispatcher traffic armed).course.Collects timeout armed [] [] := by
  obtain ⟨hdispatch, hfires⟩ := Session.dispatch_of_none
    (Session.takeMessage_of_empty (s := s.watchClose) hempty armed)
  have hsession : (start s dispatcher traffic armed).course.session = s.watchClose :=
    congrArg Prod.snd hdispatch
  have hfired : (start s dispatcher traffic armed).course.fired = [] := by
    simp only [start, Course.perform, hfires, List.append_nil]
  refine ⟨.nil timeout armed, by simp, ?_, ?_, by simp, ?_⟩
  · rw [hsession]
    exact ⟨hs.plain, hs.splitter, hs.handled, hs.window⟩
  · rw [hsession]
    exact hempty
  · rw [hfired]
    rfl

end Reader

/-- A read loop whose session cuts by silence makes one message of each burst of chunks, in order: the
bytes of the longest runs of chunks with less than the read timeout between them. So it is in virtual
time, when the loop is watched for longer than the timeout behind the last chunk, no two chunks are
exactly the timeout apart, and the loop goes on and nobody closes the session or attaches a heartbeat;
the handler may be told and act, and others answer, at any moment. What is fired goes through the queue
to the handler, and nothing stays in the buffer. -/
theorem silence_groups (h : Handler μ ε) {timeout : Nat} (hpos : 0 < timeout) {s : Session ε}
    (hs : s.Pausing timeout) (hempty : s.buffer.contents = []) (hqueue : s.events.disconnected = false)
    (dispatcher : Dispatcher μ ε) (traffic : Traffic) {armed stop : Nat} {arrivals : List Arrival}
    (hchunks : ∀ a ∈ arrivals, a.2 ≠ [])
    (hgaps : arrivals.IsChain fun a b : Arrival => b.1 ≠ a.1 + timeout)
    (hstop : ∀ a ∈ arrivals, a.1 + timeout < stop) {turns : List (Nat × Turn)}
    (hpasses : Unfolds timeout stop armed arrivals (Reader.passes turns))
    (hothers : ∀ t ∈ turns, ∀ d ∈ t.2.deed?, d.IsAnswer)
    (hrunning : ((Reader.start s dispatcher traffic armed).run h turns).running = true)
    (hopen : .disconnect ∉ ((Reader.start s dispatcher traffic armed).run h turns).course.fired)
    (hbare : ((Reader.start s dispatcher traffic armed).run h turns).course.session.heartbeatSlot? =
      none) :
    let c := ((Reader.start s dispatcher traffic armed).run h turns).course
    c.fired.filterMap Event.message? = joined (bursts timeout arrivals) ∧
      c.queued.filterMap Event.message? =
        s.events.pending.filterMap Event.message? ++ joined (bursts timeout arrivals) ∧
      c.session.buffer.contents = [] ∧ c.Replays s.events := by
  intro c
  have hstart := Reader.collects_start hs hempty dispatcher traffic armed
  obtain ⟨armed', gone, held, hall, hover, hc⟩ := Reader.collects_run hpos h hstart hgaps hchunks hpasses
    hothers hrunning hbare
  have hreplays : c.Replays s.events := Reader.replays_run h s dispatcher traffic armed turns
  rw [List.append_nil, List.nil_append] at hall
  -- What is held came last, and the read behind it is over by now.
  obtain rfl : held = [] := by
    by_contra hheld
    have hlast : held.getLast hheld ∈ held.getLast? := List.getLast_mem_getLast? hheld
    have harrival : held.getLast hheld ∈ arrivals := by
      rw [← hall]
      exact List.mem_append_right _ (List.getLast_mem hheld)
    have htime := hc.grouped.latest _ hlast
    have hbound := hstop _ harrival
    omega
  rw [List.append_nil] at hall
  subst hall
  have hfired : c.fired.filterMap Event.message? = joined (bursts timeout gone) := hc.messages
  refine ⟨hfired, ?_, hc.contents, hreplays⟩
  rw [hreplays.queued, EventQueue.messages_foldl hqueue hopen, hfired]

/-- Two chunks that are near to each other, and one that comes after two reads have timed out for
nothing; the handler answers the first message while the loop waits. -/
theorem silence_groups_two :
    let h : Handler Unit Empty := ⟨fun _ e => match e with
      | .receive line => .done () (some line)
      | _ => .nothing ()⟩
    let s : Session Empty :=
      .new 0 { Settings.server "localhost" 6380 with handled := true, readTimeout := 10 } .silence
    let arrivals : List Arrival := [(3, [97]), (5, [98]), (40, [99])]
    let turns : List (Nat × Turn) := [(3, .pass (.data [97])), (5, .pass (.data [98])),
      (15, .pass .timedOut), (15, .move .tell), (17, .move .act), (25, .pass .timedOut),
      (35, .pass .timedOut), (40, .pass (.data [99])), (50, .pass .timedOut), (60, .pass .timedOut)]
    (s.Pausing 10 ∧ Unfolds 10 60 0 arrivals (Reader.passes turns)) ∧
      ((Reader.start s (.waiting ()) .zero 0).run h turns).course.fired.filterMap Event.message? =
        [[97, 98], [99]] := by
  intro h s arrivals turns
  have hs : s.Pausing 10 := ⟨rfl, rfl, rfl, rfl⟩
  have hpasses : Unfolds 10 60 0 arrivals (Reader.passes turns) :=
    unfolds_outcomes (by decide) (by decide) (by decide)
  obtain ⟨hmessages, -⟩ := silence_groups h (by decide) hs rfl rfl (.waiting ()) .zero (by decide)
    (by decide) (by decide) hpasses (by simp [turns, Turn.deed?, Move.deed?]) (by decide +kernel)
    (by decide +kernel) (by decide +kernel)
  exact ⟨⟨hs, hpasses⟩, hmessages.trans (by decide +kernel)⟩

end SessionEngine
