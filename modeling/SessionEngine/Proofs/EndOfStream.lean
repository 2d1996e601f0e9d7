import SessionEngine.Proofs.Course.Passing
import SessionEngine.Proofs.SilenceGrouping

/-! What becomes of the bytes at the end of a stream, when a session cuts by silence. The loop looks for a
message once more when the peer writes no more, but what came less than the read timeout ago is not one yet,
and stays in the buffer of the closed session. `Saves` says what was fired and what is held, each read keeps
it, and `delivered_iff_silent` tells from the times alone whether the last bytes went to the handler. -/

namespace SessionEngine

variable {ε : Type}

/-- When the last chunk came that waits for a silence, after one more read: `timeout` behind it, it does
not wait any more. -/
def awaited (timeout : Nat) (last : Option Nat) (read : Nat × ReadOutcome) : Option Nat :=
  match read.2.bytes? with
  | some _ => some read.1
  | none => last.filter fun time => read.1 - time < timeout

section Awaited

variable {timeout time : Nat} {reads : List (Nat × ReadOutcome)}

theorem awaited_of_soon {read : Nat × ReadOutcome} (hread : read.2.bytes? = none)
    (hsoon : read.1 - time < timeout) : awaited timeout (some time) read = some time := by
  simp [awaited, hread, hsoon]

theorem awaited_of_late {read : Nat × ReadOutcome} (hread : read.2.bytes? = none)
    (hlate : timeout ≤ read.1 - time) : awaited timeout (some time) read = none := by
  simpa [awaited, hread] using hlate

theorem awaited_none {read : Nat × ReadOutcome} (hread : read.2.bytes? = none) :
    awaited timeout none read = none := by
  simp [awaited, hread]

theorem foldl_awaited_none (hsilent : ∀ read ∈ reads, read.2.bytes? = none) :
    reads.foldl (awaited timeout) none = none := by
  induction reads with
  | nil => rfl
  | cons read reads ih =>
    rw [List.foldl_cons, awaited_none (hsilent read List.mem_cons_self)]
    exact ih fun read' hread' => hsilent read' (List.mem_cons_of_mem _ hread')

/-- What waits goes on waiting unless a read ends `timeout` behind it. -/
theorem foldl_awaited_some (hsilent : ∀ read ∈ reads, read.2.bytes? = none) :
    reads.foldl (awaited timeout) (some time) = none ↔ ∃ read ∈ reads, timeout ≤ read.1 - time := by
  induction reads with
  | nil => simp
  | cons read reads ih =>
    have hread : read.2.bytes? = none := hsilent read List.mem_cons_self
    have hlater : ∀ read' ∈ reads, read'.2.bytes? = none :=
      fun read' hread' => hsilent read' (List.mem_cons_of_mem _ hread')
    rw [List.foldl_cons]
    by_cases hsoon : read.1 - time < timeout
    · have hnot : ¬ timeout ≤ read.1 - time := by omega
      rw [awaited_of_soon hread hsoon, ih hlater]
      simp [hnot]
    · have hlate : timeout ≤ read.1 - time := by omega
      rw [awaited_of_late hread hlate, foldl_awaited_none hlater]
      simp [hlate]

end Awaited

namespace Course

/-- What was fired, with what is held, is all that was fed; what is held came last at `last`. -/
structure Saves (timeout : Nat) (fed : Bytes) (last : Option Nat) (c : Course μ ε) : Prop where
  pausing : c.session.Pausing timeout
  whole : (c.fired.filterMap Event.message?).flatten ++ c.session.buffer.contents = fed
  holding : ∀ time ∈ last, c.session.Holding time
  empty : last = none → c.session.buffer.contents = []

namespace Saves

variable {timeout : Nat} {fed : Bytes} {last : Option Nat} {c c' : Course μ ε}

theorem aside (hc : c.Saves timeout fed last) (h : c.Aside c') : c'.Saves timeout fed last := by
  refine ⟨hc.pausing.of_grows h.grows, ?_, fun time htime => ⟨?_, ?_⟩, fun hnone => ?_⟩
  · rw [h.messages, h.contents]
    exact hc.whole
  · rw [h.contents]
    exact (hc.holding time htime).nonempty
  · rw [h.arrival]
    exact (hc.holding time htime).arrival
  · rw [h.contents]
    exact hc.empty hnone

/-- All that was fed was fired, unless something waits. -/
theorem delivered_iff (hc : c.Saves timeout fed last) :
    (c.fired.filterMap Event.message?).flatten = fed ↔ last = none := by
  have hwhole := hc.whole
  cases last with
  | none =>
    rw [hc.empty rfl, List.append_nil] at hwhole
    exact iff_of_true hwhole rfl
  | some time =>
    refine iff_of_false (fun hall => ?_) nofun
    rw [hall] at hwhole
    exact (hc.holding time rfl).nonempty (List.append_right_eq_self.mp hwhole)

variable [Tls.RecordEngine ε]

/-- A dispatch fires what is held if it has waited long enough, and else nothing. -/
theorem dispatch (hc : c.Saves timeout fed last) (hbare : c.session.heartbeatSlot? = none)
    (read : Nat × ReadOutcome) (hread : read.2.bytes? = none) :
    (c.perform read.1 .dispatch).Saves timeout fed (awaited timeout last read) := by
  cases last with
  | none =>
    rw [awaited_none hread, perform_dispatch_of_none (Session.takeMessage_of_empty (hc.empty rfl) read.1)]
    exact hc
  | some time =>
    have hheld := hc.holding time rfl
    by_cases hsoon : read.1 - time < timeout
    · rw [awaited_of_soon hread hsoon,
        perform_dispatch_of_none (Session.takeMessage_of_waiting hc.pausing.splitter hheld
          (hc.pausing.window ▸ hsoon))]
      exact hc
    · have hlate : timeout ≤ read.1 - time := by omega
      obtain ⟨hdispatch, hfires⟩ := Session.dispatch_of_silent hc.pausing hbare hheld hlate
      have hperform : c.session.perform read.1 .dispatch =
          (c.session.withContents []).fire (.receive c.session.buffer.contents) :=
        congrArg Prod.snd hdispatch
      have hempty : (c.perform read.1 .dispatch).session.buffer.contents = [] := by
        rw [perform, hperform]
        rfl
      have hmessages : (c.perform read.1 .dispatch).fired.filterMap Event.message? =
          c.fired.filterMap Event.message? ++ [c.session.buffer.contents] := by
        rw [perform, hfires, List.filterMap_append]
        rfl
      rw [awaited_of_late hread hlate]
      have hpausing := hc.pausing.of_grows (Session.grows_perform c.session read.1 .dispatch)
      refine ⟨hpausing, ?_, ?_, fun _ => hempty⟩
      · rw [hmessages, hempty, List.flatten_append, List.flatten_singleton, List.append_nil]
        exact hc.whole
      · rintro _ ⟨⟩

end Saves

end Course

variable [Tls.RecordEngine ε]

namespace Reader

variable {timeout : Nat} {fed : Bytes} {last : Option Nat} {r : Reader μ ε}

theorem saves_data (hpos : 0 < timeout) (hr : r.course.Saves timeout fed last)
    (hbare : r.course.session.heartbeatSlot? = none) {now : Nat} {bytes : Bytes} (hbytes : bytes ≠ [])
    (hrunning : (r.pass now (.data bytes)).running = true) :
    (r.pass now (.data bytes)).course.Saves timeout (fed ++ bytes) (some now) := by
  obtain ⟨buffer, happend⟩ : ∃ buffer, r.course.session.buffer.append now bytes = .ok buffer := by
    have hok := feed_of_running hrunning
    rw [Session.feed_of_bare hr.pausing.plain hbare] at hok
    cases happend : r.course.session.buffer.append now bytes with
    | error cause => rw [happend] at hok; cases hok
    | ok buffer => exact ⟨buffer, rfl⟩
  have hcontents : buffer.contents = r.course.session.buffer.contents ++ bytes :=
    Buffer.contents_append happend
  have hpausing : ({ r.course.session with buffer } : Session ε).Pausing timeout :=
    ⟨hr.pausing.plain, hr.pausing.splitter, hr.pausing.handled, hr.pausing.window⟩
  have hholding : ({ r.course.session with buffer } : Session ε).Holding now :=
    ⟨hcontents ▸ List.append_ne_nil_of_right_ne_nil _ hbytes, Buffer.lastArrival_append happend hbytes⟩
  -- The chunk has just come: no silence is behind it yet.
  have hwait : now - now < r.course.session.settings.readTimeout := by
    rw [hr.pausing.window]
    omega
  obtain ⟨⟨closeSignal, hsession⟩, hfired⟩ := pass_data_of_none hr.pausing.plain hbare
    (running_of_pass hrunning) happend (Session.takeMessage_of_waiting hpausing.splitter hholding hwait)
  refine ⟨hr.pausing.of_grows (r.grows_pass _ _), ?_, ?_, nofun⟩
  · rw [hfired, hsession, ← hr.whole, List.append_assoc]
    exact congrArg (_ ++ ·) hcontents
  · rintro time ⟨⟩
    rw [hsession]
    exact ⟨hholding.nonempty, hholding.arrival⟩

theorem saves_timedOut (hr : r.course.Saves timeout fed last)
    (hbare : r.course.session.heartbeatSlot? = none) (hrunning : r.running = true) (now : Nat) :
    (r.pass now .timedOut).course.Saves timeout fed (awaited timeout last (now, .timedOut)) := by
  refine Course.Saves.aside ?_ (aside_pass hrunning now .timedOut)
  have hdispatch := hr.dispatch hbare (now, .timedOut) rfl
  simp only [ReadLoop.deeds]
  split
  · exact hdispatch.aside (Course.aside_idle _ now)
  · exact hdispatch

/-- What is saved along reads behind which the loop goes on. -/
theorem saves_run (hpos : 0 < timeout) (h : Handler μ ε) {turns : List (Nat × Turn)}
    (hr : r.course.Saves timeout fed last)
    (hchunks : ∀ read ∈ passes turns, ∀ bytes ∈ read.2.bytes?, bytes ≠ [])
    (hothers : ∀ t ∈ turns, ∀ d ∈ t.2.deed?, d.IsAnswer) (hrunning : (r.run h turns).running = true)
    (hbare : (r.run h turns).course.session.heartbeatSlot? = none) :
    (r.run h turns).course.Saves timeout (fed ++ received (passes turns))
      ((passes turns).foldl (awaited timeout) last) := by
  induction turns generalizing r fed last with
  | nil =>
    rw [show received (passes []) = [] from rfl, List.append_nil]
    exact hr
  | cons t turns ih =>
    obtain ⟨now, t⟩ := t
    have hlater : ∀ t ∈ turns, ∀ d ∈ t.2.deed?, d.IsAnswer :=
      fun t' ht' => hothers t' (List.mem_cons_of_mem _ ht')
    have hrunning' : (r.turn h now t).running = true := running_of_run hrunning
    have hbare' : r.course.session.heartbeatSlot? = none :=
      (r.grows_run h ((now, t) :: turns)).bare hbare
    cases t with
    | move m =>
      have haside := Course.aside_move hr.pausing.plain h now (m := m) (hothers _ List.mem_cons_self)
      exact ih (hr.aside haside) hchunks hlater hrunning hbare
    | pass outcome =>
      have hpasses : passes ((now, .pass outcome) :: turns) = (now, outcome) :: passes turns := rfl
      rw [hpasses] at hchunks ⊢
      have hchunks' := fun read hread => hchunks read (List.mem_cons_of_mem (now, outcome) hread)
      obtain rfl | ⟨bytes, rfl⟩ := outcome_of_running hrunning'
      · have htimedOut := saves_timedOut hr hbare' (running_of_pass hrunning') now
        exact ih htimedOut hchunks' hlater hrunning hbare
      · have hdata := saves_data hpos hr hbare' (hchunks _ List.mem_cons_self bytes rfl) hrunning'
        have hrest := ih hdata hchunks' hlater hrunning hbare
        rw [List.append_assoc] at hrest
        exact hrest

theorem saves_start {s : Session ε} (hs : s.Pausing timeout) (hempty : s.buffer.contents = [])
    (dispatcher : Dispatcher μ ε) (traffic : Traffic) (now : Nat) :
    (start s dispatcher traffic now).course.Saves timeout [] none := by
  have hcollects := collects_start hs hempty dispatcher traffic now
  refine ⟨hcollects.pausing, ?_, nofun, fun _ => hcollects.contents⟩
  rw [hcollects.messages, hcollects.contents]
  rfl

/-- When the peer writes no more, the loop looks for a message once more, and then it closes the session. -/
theorem saves_ended (hr : r.course.Saves timeout fed last)
    (hbare : r.course.session.heartbeatSlot? = none) (hrunning : r.running = true) (now : Nat) :
    (r.pass now .ended).course.Saves timeout fed (awaited timeout last (now, .ended)) := by
  have hdispatch := hr.dispatch hbare (now, .ended) rfl
  have hclose := Course.aside_perform hdispatch.pausing.plain (d := .close) trivial now
  exact (hdispatch.aside hclose).aside (aside_pass hrunning now .ended)

end Reader

/-- When the stream of a session that cuts by silence ends, what was fired and what stays in the buffer is
all that was read, and all of it was fired exactly if no chunk waits for a silence by then: if a read, be it
the last one, ended at least the read timeout behind the last chunk. What was fired is queued before the
disconnect, which is queued last. So it is while nobody closes the session or attaches a heartbeat, and no
chunk is refused; the handler may be told and act, and others answer, at any moment. -/
theorem delivered_iff_silent (h : Handler μ ε) {timeout : Nat} (hpos : 0 < timeout) {s : Session ε}
    (hs : s.Pausing timeout) (hempty : s.buffer.contents = []) (hagrees : s.Agrees)
    (dispatcher : Dispatcher μ ε) (traffic : Traffic) (begun : Nat) {turns : List (Nat × Turn)}
    (hchunks : ∀ read ∈ Reader.passes turns, ∀ bytes ∈ read.2.bytes?, bytes ≠ [])
    (hothers : ∀ t ∈ turns, ∀ d ∈ t.2.deed?, d.IsAnswer)
    (hrunning : ((Reader.start s dispatcher traffic begun).run h turns).running = true)
    (hopen : ((Reader.start s dispatcher traffic begun).run h turns).course.session.stage = .connected)
    (hbare : ((Reader.start s dispatcher traffic begun).run h turns).course.session.heartbeatSlot? =
      none) (now : Nat) :
    let c := (((Reader.start s dispatcher traffic begun).run h turns).pass now .ended).course
    let reads := Reader.passes turns ++ [(now, .ended)]
    let messages := c.fired.filterMap Event.message?
    messages.flatten ++ c.session.buffer.contents = received reads ∧
      (messages.flatten = received reads ↔ reads.foldl (awaited timeout) none = none) ∧
      (∀ before last bytes after, reads = before ++ (last, .data bytes) :: after →
        (∀ read ∈ after, read.2.bytes? = none) →
        (messages.flatten = received reads ↔ ∃ read ∈ after, timeout ≤ read.1 - last)) ∧
      c.session.stage = .closed ∧
      ∃ before, c.queued = before ++ [.disconnect] ∧ before.filterMap Event.message? =
        s.events.pending.filterMap Event.message? ++ messages := by
  intro c reads messages
  let r := (Reader.start s dispatcher traffic begun).run h turns
  let looked := r.course.perform now .dispatch
  have hr : r.course.Saves timeout (received (Reader.passes turns))
      ((Reader.passes turns).foldl (awaited timeout) none) :=
    Reader.saves_run hpos h (Reader.saves_start hs hempty dispatcher traffic begun) hchunks hothers
      hrunning hbare
  have hc : c.Saves timeout (received reads) (reads.foldl (awaited timeout) none) := by
    have hended := Reader.saves_ended hr hbare hrunning now
    rw [received_concat, List.foldl_append]
    exact (List.append_nil (received (Reader.passes turns))).symm ▸ hended
  have hstage : looked.session.stage = .connected :=
    (Session.stays_dispatch r.course.session now).stage.trans hopen
  have hagrees' : r.course.session.Agrees :=
    Reader.agrees_run (Reader.agrees_start hagrees dispatcher traffic begun) h hothers
  have hlooked : looked.session.Agrees := hagrees'.perform (d := .dispatch) nofun now
  have hreplays : looked.Replays s.events :=
    (Reader.replays_run h s dispatcher traffic begun turns).perform now .dispatch
  have hreplays' : c.Replays s.events :=
    Reader.replays_pass (Reader.replays_run h s dispatcher traffic begun turns) now .ended
  have hlatch : looked.session.events.disconnected = false := hlooked.disconnected_eq_false hstage
  obtain ⟨hqueue, hnone⟩ := hreplays.disconnect_notMem hlatch
  obtain ⟨hfired, -, hclosed⟩ : c.fired = looked.fired ++ [.disconnect] ∧ _ ∧ _ :=
    Reader.pass_of_close (r := r) hrunning [.dispatch] rfl hlooked (hstage ▸ rfl)
  refine ⟨hc.whole, hc.delivered_iff, ?_, hclosed, looked.queued, ?_, ?_⟩
  · intro before last bytes after hreads hsilent
    have hlast : reads.foldl (awaited timeout) none = after.foldl (awaited timeout) (some last) := by
      rw [hreads, List.foldl_append]
      rfl
    rw [hc.delivered_iff, hlast]
    exact foldl_awaited_some hsilent
  · have hopened : (looked.fired.foldl EventQueue.fire s.events).disconnected = false := by
      rw [hreplays]
      exact hlatch
    rw [hreplays'.queued, hfired, List.foldl_append, hreplays.queued]
    exact EventQueue.pending_foldl_of_open hopened (by simp) (by simp)
  · have hmessages : messages = looked.fired.filterMap Event.message? := by
      simp only [messages, hfired, List.filterMap_append]
      exact List.append_nil _
    rw [hreplays.queued, EventQueue.messages_foldl hqueue hnone, hmessages]

/-- A chunk, a read that times out behind it for nothing, and the end when it has waited long enough. -/
theorem delivered_iff_silent_late :
    let h : Handler Unit Empty := ⟨fun _ _ => .nothing ()⟩
    let s : Session Empty := { Session.new 0
      { Settings.server "localhost" 6380 with handled := true, readTimeout := 10 } .silence with
      stage := .connected }
    let turns : List (Nat × Turn) :=
      [(3, .pass (.data [97])), (4, .move .tell), (10, .pass .timedOut)]
    let c := (((Reader.start s (.waiting ()) .zero 0).run h turns).pass 13 .ended).course
    (s.Pausing 10 ∧ s.Agrees) ∧ (c.fired.filterMap Event.message?).flatten = [97] := by
  intro h s turns c
  have hs : s.Pausing 10 := ⟨rfl, rfl, rfl, rfl⟩
  have hagrees : s.Agrees := ⟨by decide, by decide, by decide⟩
  have hothers : ∀ t ∈ turns, ∀ d ∈ t.2.deed?, d.IsAnswer := by simp [turns, Turn.deed?, Move.deed?]
  obtain ⟨-, hdelivered, -⟩ := delivered_iff_silent h (by decide) hs rfl hagrees (.waiting ()) .zero 0
    (by decide) hothers (by decide +kernel) (by decide +kernel) (by decide +kernel) 13
  exact ⟨⟨hs, hagrees⟩, hdelivered.mpr (by decide)⟩

/-- The peer writes a byte and ends the stream two time units later: the handler hears of no message. -/
theorem tail_undelivered :
    let h : Handler Unit Empty := ⟨fun _ _ => .nothing ()⟩
    let s : Session Empty := { Session.new 0
      { Settings.server "localhost" 6380 with handled := true, readTimeout := 10 } .silence with
      stage := .connected }
    let reads : List (Nat × ReadOutcome) := [(3, .data [97]), (5, .ended)]
    let c := ((Reader.start s (.waiting ()) .zero 0).run h (reads.map fun read =>
      (read.1, .pass read.2))).course
    (s.Pausing 10 ∧ s.buffer.contents = [] ∧ s.Agrees) ∧
      ¬ (c.queued.filterMap Event.message?).flatten = received reads ∧
      c.queued = [.disconnect] ∧ c.session.buffer.contents = [97] := by
  intro h s reads c
  refine ⟨⟨⟨rfl, rfl, rfl, rfl⟩, rfl, by decide, by decide, by decide⟩, ?_, ?_, ?_⟩
  · decide +kernel
  · decide +kernel
  · decide +kernel

end SessionEngine
