import SessionEngine.Proofs.Course.Reader
import SessionEngine.Proofs.Lifecycle
import SessionEngine.Proofs.Session.Limit
import SessionEngine.Proofs.Session.Pausing

/-! Read loops whose sessions know whether they are closed. `agrees_run` says that reads, and all that goes
on beside them, keep it so, `queued_pass` that a read of an open session queues the events that it fires,
and `pass_of_close` what the end of a loop comes to. -/

namespace SessionEngine

variable {ε : Type}

/-- An open queue takes in all that is fired but a connect, up to the disconnect. -/
theorem EventQueue.pending_foldl_of_open {q : EventQueue} {es : List Event}
    (hopen : q.disconnected = false) (hconnect : .connect ∉ es) (hlast : .disconnect ∉ es.dropLast) :
    (es.foldl EventQueue.fire q).pending = q.pending ++ es := by
  induction es generalizing q with
  | nil => exact (List.append_nil _).symm
  | cons e es ih =>
    rw [List.mem_cons, not_or] at hconnect
    have hpending : (q.fire e).pending = q.pending ++ [e] := by
      rw [pending_fire, if_pos ⟨hopen, fun he => absurd he.symm hconnect.1⟩]
    cases es with
    | nil => exact hpending
    | cons e' es =>
      rw [List.dropLast_cons_cons, List.mem_cons, not_or] at hlast
      have hfire : (q.fire e).disconnected = false := by
        rw [Bool.eq_false_iff, ne_eq, disconnected_fire, not_or]
        exact ⟨Bool.eq_false_iff.mp hopen, hlast.1⟩
      rw [List.foldl_cons, ih hfire hconnect.2 hlast.2, hpending, List.append_assoc]
      rfl

def ReadOutcome.bytes? : ReadOutcome → Option Bytes
  | .data bytes => some bytes
  | .timedOut | .ended | .failed _ | .closing => none

/-- The chunks that reads have given. -/
def chunks (reads : List (Nat × ReadOutcome)) : List Bytes := reads.filterMap fun read => read.2.bytes?

/-- All the bytes that reads have given. -/
def received (reads : List (Nat × ReadOutcome)) : Bytes := (chunks reads).flatten

theorem received_concat (reads : List (Nat × ReadOutcome)) (now : Nat) (outcome : ReadOutcome) :
    received (reads ++ [(now, outcome)]) = received reads ++ outcome.bytes?.getD [] := by
  cases outcome <;> simp [received, chunks, ReadOutcome.bytes?]

theorem Deed.IsAnswer.ne_disconnect {d : Deed} (h : d.IsAnswer) : d ≠ .fire .disconnect := by
  rintro rfl
  exact h

namespace Course

/-- No disconnect was fired through a queue that is open. -/
theorem Replays.disconnect_notMem {q : EventQueue} {c : Course μ ε} (h : c.Replays q)
    (hopen : c.session.events.disconnected = false) : q.disconnected = false ∧ .disconnect ∉ c.fired := by
  have hlatch := EventQueue.disconnected_foldl c.fired q
  rw [h, show (c.session.events.behind c.told).disconnected = c.session.events.disconnected from rfl,
    hopen] at hlatch
  simpa using hlatch

/-- Who watches for the close makes no difference to what is taken in. -/
theorem aside_closeSignal {c c' : Course μ ε} {closeSignal : Signal}
    (hsession : c'.session = { c.session with closeSignal }) (hfired : c'.fired = c.fired) :
    c.Aside c' := by
  refine ⟨?_, ?_, by rw [hfired], by rw [hfired], ?_⟩ <;> rw [hsession]
  exact ⟨rfl, rfl, fun _ hslot => hslot, List.prefix_rfl, fun hplain => hplain⟩

end Course

variable [Tls.RecordEngine ε]

theorem ReadLoop.deeds_ne_disconnect {l : ReadLoop ε} {now : Nat} {outcome : ReadOutcome} {d : Deed}
    (hd : d ∈ l.deeds now outcome) : d ≠ .fire .disconnect := by
  rintro rfl
  cases outcome with
  | data bytes =>
    simp only [deeds] at hd
    split at hd <;> simp at hd
  | timedOut =>
    simp only [deeds] at hd
    split at hd <;> simp at hd
  | failed cause =>
    simp only [deeds] at hd
    split at hd <;> simp at hd
  | ended => simp [deeds] at hd
  | closing => simp [deeds] at hd

namespace Course

theorem agrees_performAll {c : Course μ ε} (hc : c.session.Agrees) (now : Nat) {deeds : List Deed}
    (hdeeds : ∀ d ∈ deeds, d ≠ .fire .disconnect) : (c.performAll now deeds).session.Agrees := by
  induction deeds generalizing c with
  | nil => exact hc
  | cons d deeds ih =>
    have hfirst : (c.perform now d).session.Agrees := hc.perform (hdeeds d List.mem_cons_self) now
    exact ih hfirst fun d' hd' => hdeeds d' (List.mem_cons_of_mem d hd')

theorem agrees_move {c : Course μ ε} (hc : c.session.Agrees) (h : Handler μ ε) (now : Nat) {m : Move}
    (hm : ∀ d ∈ m.deed?, d ≠ .fire .disconnect) : (c.move h now m).session.Agrees := by
  suffices hrun : (c.run h [(now, m)]).session.Agrees from hrun
  refine run_history (fun c _ => c.session.Agrees) (· ≠ .fire .disconnect)
    (fun now _ hd hc => hc.perform hd now) (fun hd => ?_) (fun {c' _} hc' => ?_) (fun _ hc => hc) ?_ [] hc
  · rintro rfl
    exact hd
  · obtain ⟨-, events, htell, hlatch⟩ := c'.queued_tell h
    rw [htell]
    exact hc'.congr hlatch
  · intro m' hm'
    obtain rfl := List.mem_singleton.mp hm'
    exact hm

theorem stage_le_performAll (c : Course μ ε) (now : Nat) (deeds : List Deed) :
    c.session.stage ≤ (c.performAll now deeds).session.stage := by
  induction deeds generalizing c with
  | nil => exact Stage.le_refl _
  | cons d deeds ih =>
    exact Stage.le_trans (Session.stage_le_perform c.session now d) (ih (c.perform now d))

theorem aside_move {c : Course μ ε} (hplain : c.session.tls = none) (h : Handler μ ε) (now : Nat) {m : Move}
    (hm : ∀ d ∈ m.deed?, d.IsAnswer) : c.Aside (c.move h now m) := by
  cases m with
  | deed d => exact aside_perform hplain (hm d rfl) now
  | tell => exact c.aside_tell h
  | act => exact aside_act hplain now

/-- A dispatch that finds no message whole leaves everything as it was. -/
theorem perform_dispatch_of_none {c : Course μ ε} {now : Nat}
    (hnone : c.session.takeMessage now = (.ok none, c.session)) : c.perform now .dispatch = c := by
  obtain ⟨hdispatch, hfires⟩ := Session.dispatch_of_none hnone
  have hperform : c.session.perform now .dispatch = c.session := congrArg Prod.snd hdispatch
  rw [perform, hperform, hfires, List.append_nil]

theorem aside_idle (c : Course μ ε) (now : Nat) : c.Aside (c.perform now (.fire .idle)) := by
  refine ⟨Session.grows_perform c.session now (.fire .idle), rfl, ?_, ?_, rfl⟩
  · rw [perform, List.filterMap_append]
    exact List.append_nil _
  · rw [perform, List.filterMap_append]
    exact List.append_nil _

end Course

namespace Reader

/-- A loop goes on behind a chunk or behind nothing, if at all. -/
theorem outcome_of_running {r : Reader μ ε} {now : Nat} {outcome : ReadOutcome}
    (hrunning : (r.pass now outcome).running = true) :
    outcome = .timedOut ∨ ∃ bytes, outcome = .data bytes := by
  have hbefore : r.loop.running = true := running_of_pass hrunning
  have hloop : (r.loop.step now outcome).running = true := by
    rw [← loop_pass]
    exact hrunning
  cases outcome with
  | timedOut => exact .inl rfl
  | data bytes => exact .inr ⟨bytes, rfl⟩
  | ended | failed cause | closing =>
    simp only [ReadLoop.step, hbefore] at hloop
    cases hloop

theorem aside_pass {r : Reader μ ε} (hrunning : r.running = true) (now : Nat) (outcome : ReadOutcome) :
    (r.course.performAll now (r.loop.deeds now outcome)).Aside (r.pass now outcome).course := by
  obtain ⟨closeSignal, hsession⟩ := session_pass hrunning now outcome
  exact Course.aside_closeSignal hsession (fired_pass hrunning now outcome)

theorem agrees_pass {r : Reader μ ε} (hr : r.course.session.Agrees) (now : Nat) (outcome : ReadOutcome) :
    (r.pass now outcome).course.session.Agrees := by
  by_cases hrunning : r.running = true
  · have hall : (r.course.performAll now (r.loop.deeds now outcome)).session.Agrees :=
      Course.agrees_performAll hr now fun d hd => ReadLoop.deeds_ne_disconnect hd
    obtain ⟨closeSignal, hsession⟩ := session_pass hrunning now outcome
    rw [hsession]
    exact ⟨hall.settled, hall.buffer, hall.queue⟩
  · rw [pass, if_neg hrunning]
    exact hr

theorem agrees_run {r : Reader μ ε} (hr : r.course.session.Agrees) (h : Handler μ ε)
    {turns : List (Nat × Turn)} (hothers : ∀ t ∈ turns, ∀ d ∈ t.2.deed?, d.IsAnswer) :
    (r.run h turns).course.session.Agrees := by
  induction turns generalizing r with
  | nil => exact hr
  | cons t turns ih =>
    obtain ⟨now, t⟩ := t
    refine ih ?_ fun t' ht' => hothers t' (List.mem_cons_of_mem _ ht')
    cases t with
    | pass outcome => exact agrees_pass hr now outcome
    | move m =>
      have hanswer : ∀ d ∈ m.deed?, d.IsAnswer := hothers _ List.mem_cons_self
      exact Course.agrees_move hr h now fun d hd => (hanswer d hd).ne_disconnect

theorem agrees_start {s : Session ε} (hs : s.Agrees) (dispatcher : Dispatcher μ ε) (traffic : Traffic)
    (now : Nat) : (start s dispatcher traffic now).course.session.Agrees := by
  have hwatch : s.watchClose.Agrees := ⟨hs.settled, hs.buffer, hs.queue⟩
  exact hwatch.perform (d := .dispatch) nofun now

theorem stage_le_turn (r : Reader μ ε) (h : Handler μ ε) (now : Nat) (t : Turn) :
    r.course.session.stage ≤ (r.turn h now t).course.session.stage := by
  cases t with
  | move m => exact r.course.stage_le_run h [(now, m)]
  | pass outcome =>
    by_cases hrunning : r.running = true
    · obtain ⟨closeSignal, hsession⟩ := session_pass hrunning now outcome
      rw [turn, hsession]
      exact r.course.stage_le_performAll now (r.loop.deeds now outcome)
    · rw [turn, pass, if_neg hrunning]
      exact Stage.le_refl _

theorem stage_le_run (h : Handler μ ε) (turns : List (Nat × Turn)) (r : Reader μ ε) :
    r.course.session.stage ≤ (r.run h turns).course.session.stage := by
  induction turns generalizing r with
  | nil => exact Stage.le_refl _
  | cons t turns ih => exact Stage.le_trans (r.stage_le_turn h t.1 t.2) (ih (r.turn h t.1 t.2))

/-- A read loop of a connected session; what was fired went through the queue `q`. -/
structure Live (q : EventQueue) (r : Reader μ ε) : Prop where
  agrees : r.course.session.Agrees
  replays : r.course.Replays q
  connected : r.course.session.stage = .connected

namespace Live

variable {q : EventQueue} {r : Reader μ ε}

/-- A session that is still connected later is connected behind each turn. -/
theorem turn (hr : r.Live q) (h : Handler μ ε) (now : Nat) {t : Turn} (ht : ∀ d ∈ t.deed?, d.IsAnswer)
    {turns : List (Nat × Turn)}
    (hafter : ((r.turn h now t).run h turns).course.session.stage = .connected) :
    (r.turn h now t).Live q := by
  have hagrees : (r.run h [(now, t)]).course.session.Agrees := by
    apply agrees_run hr.agrees
    intro t' ht'
    obtain rfl := List.mem_singleton.mp ht'
    exact ht
  refine ⟨hagrees, ?_, ?_⟩
  · cases t with
    | pass outcome => exact replays_pass hr.replays now outcome
    | move m => exact hr.replays.move h now m
  · have hfrom := r.stage_le_turn h now t
    have hto := (r.turn h now t).stage_le_run h turns
    rw [hr.connected] at hfrom
    rw [hafter] at hto
    cases hstage : (r.turn h now t).course.session.stage with
    | connected => rfl
    | connecting => rw [hstage] at hfrom; exact absurd hfrom (by decide)
    | closing => exact absurd hstage hagrees.settled
    | closed => rw [hstage] at hto; exact absurd hto (by decide)

end Live

/-- The end of a loop closes the session last: nothing is taken off the buffer by that, and the
disconnect is fired if the session is open until then. -/
theorem pass_of_close {r : Reader μ ε} (hrunning : r.running = true) {now : Nat} {outcome : ReadOutcome}
    (deeds : List Deed) (hdeeds : r.loop.deeds now outcome = deeds ++ [.close])
    (hagrees : (r.course.performAll now deeds).session.Agrees)
    (hopen : (r.course.performAll now deeds).session.stage.isOpen = true) :
    (r.pass now outcome).course.fired = (r.course.performAll now deeds).fired ++ [.disconnect] ∧
      (r.pass now outcome).course.session.buffer.contents =
        (r.course.performAll now deeds).session.buffer.contents ∧
      (r.pass now outcome).course.session.stage = .closed := by
  have hall : r.course.performAll now (r.loop.deeds now outcome) =
      (r.course.performAll now deeds).perform now .close := by
    rw [hdeeds, Course.performAll, List.foldl_append]
    rfl
  obtain ⟨closeSignal, hsession⟩ := session_pass hrunning now outcome
  rw [hall] at hsession
  refine ⟨?_, ?_, ?_⟩
  · rw [fired_pass hrunning, hall, Course.perform, Session.fires, if_pos hopen]
  · rw [hsession]
    exact Session.contents_close _
  · rw [hsession]
    exact hagrees.close.2

end Reader

end SessionEngine
