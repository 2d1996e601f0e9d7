import SessionEngine.Proofs.Conservation
import SessionEngine.Proofs.Session.Closing
import SessionEngine.Proofs.Session.Parcels

/-! The life of a session. `Lives` holds at the start and is kept by every move: stage, buffer and queue
agree about whether the session is closed, and one close has succeeded if it is. What comes behind a close
is no matter of who moves: from then on nothing is queued and nothing written any more. -/

namespace SessionEngine

variable {ε : Type}

theorem Stage.eq_closed_of_le {s : Stage} (h : .closed ≤ s) : s = .closed := by
  cases s with
  | closed => rfl
  | connecting | connected | closing => exact absurd h (by decide)

namespace Course

variable {c : Course μ ε} {steps : List (Step ε)}

/-- The disconnect is among the events that were ever queued exactly if its latch is set. -/
theorem Replays.disconnect_mem_queued_iff (hc : c.Replays .empty) :
    .disconnect ∈ c.queued ↔ c.session.events.disconnected = true := by
  have hrecords := EventQueue.records_foldl c.fired
  have hlatch := hrecords.disconnected
  rw [hc] at hlatch
  rw [hc.queued, hrecords.pending]
  refine ⟨fun hmem => hlatch.mpr (EventQueue.accepted_subset _ hmem), fun hset => ?_⟩
  exact EventQueue.disconnect_mem_accepted (hlatch.mp hset)

end Course

variable [Tls.RecordEngine ε]

/-- What a close gives. -/
def Step.closing? (st : Step ε) : Option Bool :=
  match st.deed with
  | .close => some st.session.close.1
  | _ => none

theorem Step.closing?_of_ne {st : Step ε} (h : st.deed ≠ .close) : st.closing? = none := by
  unfold closing?
  split
  next hclose => exact absurd hclose h
  · rfl

namespace Course

/-- No move takes a session back to an earlier stage. -/
theorem stage_le_run (h : Handler μ ε) (moves : List (Nat × Move)) (c : Course μ ε) :
    c.session.stage ≤ (c.run h moves).session.stage := by
  refine run_keeps (fun c' => c.session.stage ≤ c'.session.stage)
    (fun {c'} now d hc => Stage.le_trans hc (Session.stage_le_perform c'.session now d))
    (fun {c'} hc => ?_) (fun _ hc => hc) (Stage.le_refl _)
  obtain ⟨-, events, htell, -⟩ := c'.queued_tell h
  rw [htell]
  exact hc

/-- Once the disconnect waits in the queue, no event is queued behind it. -/
theorem queued_run_of_disconnected (h : Handler μ ε) (moves : List (Nat × Move)) {c : Course μ ε}
    (hc : c.session.events.disconnected = true) : (c.run h moves).queued = c.queued := by
  refine (run_keeps (fun c' => c'.queued = c.queued ∧ c'.session.events.disconnected = true)
    (fun {c'} now d hc' => ⟨?_, ?_⟩) (fun {c'} hc' => ?_) (fun _ hc' => hc') ⟨rfl, hc⟩).1
  · have hevents := Session.events_perform c'.session now d
    rw [← hc'.1, queued, queued, perform, hevents, EventQueue.pending_foldl_of_disconnected hc'.2]
  · rw [perform, Session.events_perform, EventQueue.disconnected_foldl]
    exact .inl hc'.2
  · obtain ⟨hqueued, events, htell, hlatch⟩ := c'.queued_tell h
    rw [hqueued, htell]
    exact ⟨hc'.1, hlatch.trans hc'.2⟩

/-- A plaintext session that is closed writes nothing any more. -/
theorem taken_run_of_closed (h : Handler μ ε) (moves : List (Nat × Move)) {c : Course μ ε}
    (hplain : c.session.tls = none) (hclosed : c.session.stage = .closed) :
    (c.run h moves).session.writer.taken = c.session.writer.taken := by
  refine (run_keeps (fun c' => c'.session.writer.taken = c.session.writer.taken ∧
    c'.session.tls = none ∧ c'.session.stage = .closed) (fun {c'} now d hc' => ⟨?_, ?_, ?_⟩)
    (fun {c'} hc' => ?_) (fun _ hc' => hc') ⟨rfl, hplain, hclosed⟩).1
  · have hposts := Session.posts_perform hc'.2.1 now d
    have hnone : (c'.session.parcels now d).filterMap Parcel.taken? = [] := by
      refine List.filterMap_eq_nil_iff.mpr fun p hp => ?_
      have hstage := (hposts.stage p hp).trans hc'.2.2
      rw [Parcel.taken?, Parcel.outcome, Session.transmit_of_closed hstage]
    rw [← hc'.1, perform, hposts.taken, hnone, List.append_nil]
  · exact (Session.grows_perform c'.session now d).plain hc'.2.1
  · refine Stage.eq_closed_of_le ?_
    rw [← hc'.2.2]
    exact Session.stage_le_perform c'.session now d
  · obtain ⟨-, events, htell, -⟩ := c'.queued_tell h
    rw [htell]
    exact hc'

/-- Stage, buffer and queue agree whether the session is closed, and if it is, one of the closes among
`steps` has succeeded, and else none. -/
structure Lives (c : Course μ ε) (steps : List (Step ε)) : Prop where
  agrees : c.session.Agrees
  closings : (steps.filterMap Step.closing?).count true = if c.session.stage = .closed then 1 else 0

variable {c : Course μ ε} {steps : List (Step ε)}

theorem Lives.perform (hc : c.Lives steps) {d : Deed} (hd : d ≠ .fire .disconnect) (now : Nat) :
    (c.perform now d).Lives (steps ++ [⟨c.session, now, d⟩]) := by
  have hagrees : (c.perform now d).session.Agrees := hc.agrees.perform hd now
  refine ⟨hagrees, ?_⟩
  rw [List.filterMap_append, List.count_append, hc.closings]
  by_cases hclose : d = .close
  · subst hclose
    have hafter : (c.perform now .close).session.stage = .closed := hc.agrees.close.2
    have hresult : Step.closing? ⟨c.session, now, .close⟩ = some c.session.stage.isOpen :=
      congrArg some (Session.close_fst c.session)
    rw [if_pos hafter, List.filterMap_cons_some hresult]
    cases hstage : c.session.stage with
    | closing => exact absurd hstage hc.agrees.settled
    | connecting | connected | closed => rfl
  · have hnone : Step.closing? ⟨c.session, now, d⟩ = none := Step.closing?_of_ne hclose
    have hbuffer : (c.perform now d).session.buffer.closed = c.session.buffer.closed :=
      (Session.closed_perform c.session now d).resolve_right hclose
    have hstage : (c.perform now d).session.stage = .closed ↔ c.session.stage = .closed := by
      rw [← hagrees.buffer, ← hc.agrees.buffer, hbuffer]
    rw [List.filterMap_cons_none hnone]
    simp only [hstage, List.filterMap_nil, List.count_nil, Nat.add_zero]

theorem Lives.run (hc : c.Lives steps) (h : Handler μ ε) {moves : List (Nat × Move)}
    (hmoves : ∀ m ∈ moves, ∀ d ∈ m.2.deed?, d ≠ .fire .disconnect) :
    (c.run h moves).Lives (steps ++ c.history h moves) := by
  refine run_history (fun c steps => c.Lives steps) (fun d => d ≠ .fire .disconnect)
    (fun now _ hd hc => hc.perform hd now) (fun hd => ?_) (fun {c' _} hc' => ?_)
    (fun _ hc => ⟨hc.agrees, hc.closings⟩) hmoves steps hc
  · rintro rfl
    exact hd
  · obtain ⟨-, events, htell, hlatch⟩ := c'.queued_tell h
    refine ⟨?_, ?_⟩ <;> rw [htell]
    · exact hc'.agrees.congr hlatch
    · exact hc'.closings

theorem disconnect_mem_queued_iff {s : Session ε} (hs : s.events = .empty) (h : Handler μ ε) (memory : μ)
    (moves : List (Nat × Move)) :
    .disconnect ∈ ((start s memory).run h moves).queued ↔
      ((start s memory).run h moves).session.events.disconnected = true := by
  have hreplays := replays_run h s memory moves
  rw [hs] at hreplays
  exact hreplays.disconnect_mem_queued_iff

end Course

/-- The life of a session, over every course in which a disconnect comes from a close. No operation takes
it back to an earlier stage. At most one close succeeds; a close succeeds exactly if the session was
connecting or connected, and leaves in the buffer what is there. Between any two moves the session is
closed exactly if its buffer is, and exactly if the disconnect was queued, and it is never halfway there.
Once it is closed, all that is sent fails as closed, beats and stripped pings write nothing, and whatever
is done next, no event is queued and, without a TLS layer, nothing is written. A read is a run of such
operations. -/
theorem lifecycle (h : Handler μ ε) {s : Session ε} (hfresh : s.Fresh) (memory : μ)
    {moves : List (Nat × Move)} (hmoves : ∀ m ∈ moves, ∀ d ∈ m.2.deed?, d ≠ .fire .disconnect) :
    let c := (Course.start s memory).run h moves
    let steps := (Course.start s memory).history h moves
    let t := c.session
    (∀ st ∈ steps, st.session.stage ≤ st.after.stage) ∧
      (∀ more, t.stage ≤ (c.run h more).session.stage) ∧
      (steps.filterMap Step.closing?).count true ≤ 1 ∧
      (∀ st ∈ steps, st.deed = .close →
        st.closing? = some (decide (st.session.stage = .connecting ∨ st.session.stage = .connected)) ∧
        st.after.buffer.contents = st.session.buffer.contents) ∧
      t.stage ≠ .closing ∧ (t.stage = .closed ↔ t.buffer.closed = true) ∧
      (t.stage = .closed ↔ .disconnect ∈ c.queued) ∧
      (t.stage = .closed →
        (∀ data, t.transmit data = (.error .closed, t) ∧ t.send data = (.error .closed, t)) ∧
        (∀ now slot, (t.beat now slot).2.writer = t.writer ∧
          (t.interceptWith slot).writer = t.writer) ∧
        ∀ more, (c.run h more).queued = c.queued ∧
          (t.tls = none → (c.run h more).session.writer.taken = t.writer.taken)) ∧
      ∀ started others, t.Accounted others (t.read started others) := by
  intro c steps t
  have hstart : (Course.start s memory).Lives [] := by
    refine ⟨hfresh.agrees, ?_⟩
    have hopen : (Course.start s memory).session.stage ≠ .closed := by
      intro hclosed
      have hstage : (Course.start s memory).session.stage.isOpen = true := hfresh.stage
      rw [hclosed] at hstage
      cases hstage
    rw [if_neg hopen]
    rfl
  have hc : c.Lives steps := hstart.run h hmoves
  refine ⟨fun st _ => Session.stage_le_perform st.session st.time st.deed,
    fun more => c.stage_le_run h more, ?_, fun st _ hclose => ⟨?_, ?_⟩, hc.agrees.settled,
    hc.agrees.buffer.symm, ?_, fun hclosed => ⟨fun data => ⟨?_, ?_⟩, fun now slot => ⟨?_, ?_⟩,
    fun more => ⟨?_, ?_⟩⟩, t.accounted_read⟩
  · rw [hc.closings]
    split <;> omega
  · have hresult : st.closing? = some st.session.close.1 := by rw [Step.closing?, hclose]
    rw [hresult, Session.close_fst]
    cases st.session.stage <;> rfl
  · rw [Step.after, hclose]
    exact Session.contents_close st.session
  · rw [Course.disconnect_mem_queued_iff hfresh.events h memory moves]
    exact hc.agrees.queue.symm
  · exact Session.transmit_of_closed hclosed data
  · exact Session.send_of_closed hclosed data
  · exact Session.writer_beat_of_closed hclosed now slot
  · exact Session.writer_interceptWith_of_closed hclosed slot
  · exact Course.queued_run_of_disconnected h more (hc.agrees.queue.mpr hclosed)
  · exact fun hplain => Course.taken_run_of_closed h more hplain hclosed

/-- A callback closes its session twice and sends, the owner establishes what is closed, and the last
callback closes once more and panics. -/
theorem lifecycle_closes_within :
    let h : Handler Unit Empty := ⟨fun _ e => match e with
      | .receive line => .close fun _ => .close fun _ => .send line fun _ => .nothing ()
      | .disconnect => .close fun _ => .panic ()
      | _ => .nothing ()⟩
    let s : Session Empty := .new 0 { Settings.server "localhost" 6380 with handled := true } .line
    let moves : List (Nat × Move) := [.deed .installWriter, .deed .establish,
      .deed (.feed [104, 10, 105]), .deed .dispatch, .tell, .act, .deed .establish, .act, .act, .act,
      .tell, .act, .act, .deed (.fire .idle), .deed .look].map (0, ·)
    (s.Fresh ∧ ∀ m ∈ moves, ∀ d ∈ m.2.deed?, d ≠ .fire .disconnect) ∧
      ((Course.start s ()).history h moves).filterMap Step.closing? = [true, false, false] ∧
      ((Course.start s ()).run h moves).session.stage = .closed ∧
      ((Course.start s ()).run h moves).session.buffer.closed = true ∧
      .disconnect ∈ ((Course.start s ()).run h moves).queued := by
  intro h s moves
  have hfresh : s.Fresh := Session.fresh_new _ _ _
  have hmoves : ∀ m ∈ moves, ∀ d ∈ m.2.deed?, d ≠ .fire .disconnect := by
    simp [moves, Move.deed?]
  have hclosed : ((Course.start s ()).run h moves).session.stage = .closed := by decide +kernel
  obtain ⟨-, -, -, -, -, hbuffer, hqueue, -, -⟩ := lifecycle h hfresh () hmoves
  exact ⟨⟨hfresh, hmoves⟩, by decide +kernel, hclosed, hbuffer.mp hclosed, hqueue.mp hclosed⟩

end SessionEngine
