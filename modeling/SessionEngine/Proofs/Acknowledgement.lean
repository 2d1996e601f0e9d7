import SessionEngine.Proofs.Session.Closing
import SessionEngine.Proofs.Session.Parcels

/-! What the handler of a plaintext session is told of what was written. `Posted` holds what the writer
has taken and the sent events against what was transmitted so far; every move keeps it, because nothing
is transmitted with success once the disconnect waits in the queue. -/

namespace SessionEngine

variable {ε : Type} [Tls.RecordEngine ε]

def Step.parcels (st : Step ε) : List (Parcel ε) := st.session.parcels st.time st.deed

/-- Firing what is no sent event adds none to the queue. -/
theorem EventQueue.sents_foldl {es : List Event} (h : ∀ e ∈ es, e.sent? = none) (q : EventQueue) :
    (es.foldl EventQueue.fire q).pending.filterMap Event.sent? = q.pending.filterMap Event.sent? := by
  induction es generalizing q with
  | nil => rfl
  | cons e es ih =>
    rw [List.foldl_cons, ih fun e' he' => h e' (List.mem_cons_of_mem e he'), pending_fire,
      List.filterMap_append]
    split
    · rw [List.filterMap_cons_none (h e List.mem_cons_self)]
      exact List.append_nil _
    · exact List.append_nil _

/-- An operation queues a sent event for each message that the writer reports done. -/
theorem Session.Agrees.sents_perform {s : Session ε} (hs : s.Agrees) {d : Deed}
    (hd : ∀ message, d ≠ .fire (.sent message)) (now : Nat) :
    (s.perform now d).events.pending.filterMap Event.sent? =
      s.events.pending.filterMap Event.sent? ++ (s.parcels now d).filterMap Parcel.done? := by
  rw [events_perform, ← sents_fires s now hd]
  by_cases hsend : ∃ data, d = .send data
  · obtain ⟨data, rfl⟩ := hsend
    simp only [fires]
    by_cases hok : (s.send data).1 = .ok ()
    · have hconnected : s.stage = .connected :=
        Parcel.connected_of_outcome (p := ⟨s, .message data⟩) ((send_eq_ok_iff s data).mp hok)
      have hqueue := hs.disconnected_eq_false hconnected
      rw [if_pos hok, List.foldl_cons, List.foldl_nil, EventQueue.pending_fire, List.filterMap_append,
        if_pos ⟨hqueue, by simp⟩]
    · rw [if_neg hok]
      exact (List.append_nil _).symm
  · have hnone : ∀ e ∈ s.fires now d, e.sent? = none :=
      fun e he => sent?_of_fires (fun data h => hsend ⟨data, h⟩) hd he
    rw [EventQueue.sents_foldl hnone, List.filterMap_eq_nil_iff.mpr hnone, List.append_nil]

namespace Course

/-- What the owner of a session leaves to the session itself: a disconnect comes from a close, and a sent
event from a send. -/
def Proper (d : Deed) : Prop := d ≠ .fire .disconnect ∧ ∀ message, d ≠ .fire (.sent message)

theorem proper_of_callback {s : Session ε} {d : Deed} (hd : d.OfCallback s) : Proper d := by
  refine ⟨?_, fun message => ?_⟩
  · rintro rfl
    exact hd
  · rintro rfl
    exact hd

/-- Since `s` the operations `steps` were done: the writer has taken what they transmitted with success,
and a sent event was queued for each message that it reported done. -/
structure Posted (s : Session ε) (c : Course μ ε) (steps : List (Step ε)) : Prop where
  plain : c.session.tls = none
  agrees : c.session.Agrees
  taken : c.session.writer.taken =
    s.writer.taken ++ (steps.flatMap Step.parcels).filterMap Parcel.taken?
  sents : c.queued.filterMap Event.sent? = (steps.flatMap Step.parcels).filterMap Parcel.done?
  each : ∀ st ∈ steps, st.session.tls = none ∧ st.session.Agrees ∧ Proper st.deed

variable {s : Session ε} {c : Course μ ε} {steps : List (Step ε)}

theorem posted_start (hplain : s.tls = none) (hfresh : s.Fresh) (memory : μ) :
    Posted s (start s memory) [] := by
  refine ⟨hplain, hfresh.agrees, ?_, ?_, ?_⟩
  · exact (List.append_nil s.writer.taken).symm
  · rw [queued, show (start s memory).session.events = .empty from hfresh.events]
    rfl
  · intro st hst
    cases hst

theorem Posted.perform (hc : Posted s c steps) {d : Deed} (hd : Proper d) (now : Nat) :
    Posted s (c.perform now d) (steps ++ [⟨c.session, now, d⟩]) := by
  have hposts := Session.posts_perform hc.plain now d
  have hsents := hc.agrees.sents_perform hd.2 now
  have hparcels : (steps ++ [Step.mk c.session now d]).flatMap Step.parcels =
      steps.flatMap Step.parcels ++ c.session.parcels now d := by
    rw [List.flatMap_append, List.flatMap_singleton]
    rfl
  refine ⟨(Session.grows_perform c.session now d).plain hc.plain, hc.agrees.perform hd.1 now, ?_, ?_, ?_⟩
  · rw [hparcels, List.filterMap_append, ← List.append_assoc, ← hc.taken]
    exact hposts.taken
  · calc (c.perform now d).queued.filterMap Event.sent?
        = c.told.filterMap Event.sent? ++
            (c.session.perform now d).events.pending.filterMap Event.sent? := List.filterMap_append
      _ = c.queued.filterMap Event.sent? ++ (c.session.parcels now d).filterMap Parcel.done? := by
          rw [hsents, queued, List.filterMap_append, List.append_assoc]
      _ = _ := by rw [hc.sents, hparcels, List.filterMap_append]
  · intro st hst
    rcases List.mem_append.mp hst with hst | hst
    · exact hc.each st hst
    · obtain rfl := List.mem_singleton.mp hst
      exact ⟨hc.plain, hc.agrees, hd⟩

theorem Posted.tell (hc : Posted s c steps) (h : Handler μ ε) : Posted s (c.tell h) steps := by
  obtain ⟨hqueued, events, hsession, hlatch⟩ := c.queued_tell h
  refine ⟨?_, ?_, ?_, hqueued ▸ hc.sents, hc.each⟩ <;> rw [hsession]
  · exact hc.plain
  · exact hc.agrees.congr hlatch
  · exact hc.taken

theorem Posted.run (hc : Posted s c steps) (h : Handler μ ε) {moves : List (Nat × Move)}
    (hmoves : ∀ m ∈ moves, ∀ d ∈ m.2.deed?, Proper d) :
    Posted s (c.run h moves) (steps ++ c.history h moves) :=
  run_history (Posted s) Proper (fun now _ hd hc => hc.perform hd now) proper_of_callback
    (fun hc => hc.tell h) (fun _ hc => ⟨hc.plain, hc.agrees, hc.taken, hc.sents, hc.each⟩) hmoves steps hc

end Course

/-- What a plaintext session writes and what its handler is told of it, over every course in which a
disconnect comes from a close. What the writer has taken is what was transmitted with success, in order,
and all of it from a connected session whose disconnect was not queued yet; the sent events that were
queued are the messages that the writer reported done, in order, one for each. Operation by operation:
tokens fire no sent event, and neither does a transmission that fails, because the session is not
connected or its writer takes nothing, or that the writer does not report done. -/
theorem writes_acknowledged (h : Handler μ ε) {s : Session ε} (hplain : s.tls = none) (hfresh : s.Fresh)
    (memory : μ) {moves : List (Nat × Move)}
    (hmoves : ∀ m ∈ moves, ∀ d ∈ m.2.deed?, Course.Proper d) :
    let c := (Course.start s memory).run h moves
    let steps := (Course.start s memory).history h moves
    let parcels := steps.flatMap Step.parcels
    (∀ st ∈ steps, ∀ p ∈ st.parcels, ∀ mode, p.outcome = .ok mode → p.session.stage = .connected ∧
        st.session.stage = .connected ∧ st.session.events.disconnected = false) ∧
      c.session.writer.taken = s.writer.taken ++ parcels.filterMap Parcel.taken? ∧
      c.queued.filterMap Event.sent? = parcels.filterMap Parcel.done? ∧
      (∀ st ∈ steps, st.fires.filterMap Event.sent? = st.parcels.filterMap Parcel.done? ∧
        ((∀ data, st.deed ≠ .send data) → ∀ p ∈ st.parcels, p.load.message? = none)) ∧
      ∀ p ∈ parcels, p.outcome =
        if p.session.stage ≠ .connected ∨ p.session.writer.installed = false then .error .closed
        else if p.session.writer.gone then .error .writerGone
        else .ok p.session.writer.mode := by
  intro c steps parcels
  have hc : Course.Posted s c steps := (Course.posted_start hplain hfresh memory).run h hmoves
  refine ⟨fun st hst p hp mode hmode => ?_, hc.taken, hc.sents, fun st hst => ⟨?_, ?_⟩,
    fun p hp => ?_⟩
  · obtain ⟨hst_plain, hagrees, -⟩ := hc.each st hst
    have hconnected := Parcel.connected_of_outcome hmode
    have hstage : st.session.stage = .connected := by
      rw [← hconnected, (Session.posts_perform hst_plain st.time st.deed).stage p hp]
    exact ⟨hconnected, hstage, hagrees.disconnected_eq_false hstage⟩
  · exact Session.sents_fires st.session st.time (hc.each st hst).2.2.2
  · exact fun hsend p hp => Session.token_of_parcels hsend hp
  · obtain ⟨st, hst, hp⟩ := List.mem_flatMap.mp hp
    have hst_plain := (hc.each st hst).1
    exact Parcel.outcome_of_plain ((Session.posts_perform hst_plain st.time st.deed).plain p hp)

/-- Sends before there is a connection, to a writer that says nothing, to one that is gone, and behind the
close; a ping, a beat, and a reply to a line. -/
theorem writes_acknowledged_mixed :
    let h : Handler Unit Empty := ⟨fun _ e => match e with
      | .receive line => .done () (some line)
      | _ => .nothing ()⟩
    let s : Session Empty := .new 0 { Settings.server "localhost" 6380 with handled := true } .line
    let moves : List (Nat × Move) := [.deed (.send [1]), .deed .installWriter, .deed .establish,
      .deed (.attach [7] [8] .initiator), .deed (.setMode .abandon), .deed (.send [2]),
      .deed (.setMode .accept), .deed (.feed [7, 104, 10]), .deed .dispatch, .tell, .deed (.beat 0), .act,
      .deed (.send [3]), .deed .dropWriter, .deed (.send [4]), .tell, .act, .deed .close,
      .deed (.send [5])].map (0, ·)
    (s.tls = none ∧ s.Fresh ∧ ∀ m ∈ moves, ∀ d ∈ m.2.deed?, Course.Proper d) ∧
      ((Course.start s ()).run h moves).session.writer.taken = [[2], [8], [7], [104, 10], [3]] ∧
      ((Course.start s ()).run h moves).queued.filterMap Event.sent? = [[104, 10], [3]] := by
  intro h s moves
  have hplain : s.tls = none := rfl
  have hfresh : s.Fresh := Session.fresh_new _ _ _
  have hmoves : ∀ m ∈ moves, ∀ d ∈ m.2.deed?, Course.Proper d := by
    simp [moves, Move.deed?, Course.Proper]
  obtain ⟨-, htaken, hsents, -⟩ := writes_acknowledged h hplain hfresh () hmoves
  exact ⟨⟨hplain, hfresh, hmoves⟩, htaken.trans (by decide +kernel), hsents.trans (by decide +kernel)⟩

end SessionEngine
