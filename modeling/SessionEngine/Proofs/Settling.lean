import SessionEngine.Proofs.Course.Endless
import SessionEngine.Proofs.Course.Weight
import SessionEngine.Proofs.Session.Replying
import Mathlib.Order.OrderIsoNat

/-! Delivery settles. Where nobody fires an event but the callbacks, and those for echoes send nothing, the
weight of a course comes to stay (`exists_told_last`), so that the dispatcher comes to rest (`exists_idle`),
and a delivery in one go comes to its end (`Delivery.exists_settled`). -/

namespace SessionEngine

variable {ε : Type}

namespace Delivery

variable {d d' : Delivery μ ε} {now : Nat} {pool pool' : Workers}

/-- What is left to do between two events. -/
def weight (d : Delivery μ ε) : ℕ ×ₗ ℕ := toLex (d.session.events.causes, d.session.events.echoes)

theorem weight_of_shows {c : Course μ ε} (hc : c.Shows d) : c.weight = d.weight := by
  rw [Course.weight, hc.session, hc.dispatcher, weight]
  split <;> rfl

theorem moderate_deaf : (Handler.deaf : Handler μ ε).Moderate := fun _ _ _ => trivial

end Delivery

variable [Tls.RecordEngine ε]

namespace Course

variable {c : Course μ ε} {h : Handler μ ε} {agenda : Agenda} {n k : Nat}

/-- Nobody fires an event but the callbacks. -/
def Undisturbed (c : Course μ ε) (h : Handler μ ε) (agenda : Agenda) : Prop :=
  ∀ n d, (agenda n).2 = .deed d → (c.along h agenda n).session.fires (agenda n).1 d = []

/-- The dispatcher waits, and no event does. -/
def Idle (c : Course μ ε) : Prop :=
  (∃ memory, c.dispatcher = .waiting memory) ∧ c.session.events.pending = []

theorem moderate_along (hh : h.Moderate) (hc : c.Moderate) (n : Nat) : (c.along h agenda n).Moderate :=
  along_keeps (n := 0) (fun _ _ hk => hk.move hh _ _) hc (Nat.zero_le n)

theorem weight_along_succ (hh : h.Moderate) (hc : c.Moderate) (hnobody : c.Undisturbed h agenda) (n : Nat) :
    (c.along h agenda (n + 1)).weight < (c.along h agenda n).weight ∨
      (c.along h agenda (n + 1)).weight ≤ (c.along h agenda n).weight ∧
        (c.along h agenda (n + 1)).told = (c.along h agenda n).told := by
  refine weight_move h (moderate_along hh hc n) fun d hd => hnobody n d ?_
  cases hmove : (agenda n).2 <;> rw [hmove] at hd <;> cases hd
  rfl

/-- The handler is told of an event for the last time. -/
theorem exists_told_last (hh : h.Moderate) (hc : c.Moderate) (hnobody : c.Undisturbed h agenda) :
    ∃ n, ∀ k ≥ n, (c.along h agenda k).told = (c.along h agenda n).told := by
  have hanti : Antitone fun n => (c.along h agenda n).weight := by
    refine antitone_nat_of_succ_le fun n => ?_
    rcases weight_along_succ hh hc hnobody n with hless | ⟨hle, -⟩
    · exact le_of_lt hless
    · exact hle
  obtain ⟨n, hn⟩ := WellFoundedLT.antitone_chain_condition hanti
  refine ⟨n, fun k hk => ?_⟩
  refine along_keeps (P := fun c' => c'.told = (c.along h agenda n).told) (fun k hk hsame => ?_) rfl hk
  rcases weight_along_succ hh hc hnobody k with hless | ⟨-, htold⟩
  · have hsettled := (hn k hk).symm.trans (hn (k + 1) (Nat.le_succ_of_le hk))
    exact absurd hsettled.symm (ne_of_lt hless)
  · exact htold.trans hsame

theorem Idle.along (hnobody : c.Undisturbed h agenda) (hidle : (c.along h agenda n).Idle) (hk : n ≤ k) :
    (c.along h agenda k).Idle := by
  refine along_keeps (fun k _ hidle => ?_) hidle hk
  obtain ⟨⟨memory, hwaiting⟩, hnone⟩ := hidle
  rw [Course.along]
  cases hmove : (agenda k).2 with
  | deed d =>
    refine ⟨⟨memory, hwaiting⟩, ?_⟩
    rw [move, perform, Session.events_perform, hnobody k d hmove]
    exact hnone
  | tell =>
    have hsame : (c.along h agenda k).tell h = c.along h agenda k := by
      simp only [tell, hwaiting, EventQueue.pop?, hnone]
    rw [move, hsame]
    exact ⟨⟨memory, hwaiting⟩, hnone⟩
  | act =>
    have hsame : (c.along h agenda k).act (agenda k).1 = c.along h agenda k := by
      simp only [act, hwaiting]
    rw [move, hsame]
    exact ⟨⟨memory, hwaiting⟩, hnone⟩

theorem Heard.along (hc : c.Heard) (h : Handler μ ε) (agenda : Agenda) (n : Nat) :
    (c.along h agenda n).Heard :=
  along_keeps (n := 0) (fun _ _ hk => hk.move h _ _) hc (Nat.zero_le n)

theorem over_along (hover : (c.along h agenda n).dispatcher.isOver = true) (hk : n ≤ k) :
    (c.along h agenda k).dispatcher.isOver = true := by
  refine along_keeps (P := fun c' => c'.dispatcher.isOver = true) (fun k _ hover => ?_) hover hk
  obtain ⟨memory, hmemory⟩ := Dispatcher.isOver_iff.mp hover
  rw [along]
  cases (agenda k).2 with
  | deed d => exact hover
  | tell | act => simp only [move, tell, act, hmemory]; rfl

/-- A dispatcher that goes on comes to rest, or is over. -/
theorem exists_idle (hserves : agenda.Serves) (hh : h.Moderate) (hc : c.Moderate)
    (hnobody : c.Undisturbed h agenda) :
    ∃ n, ∀ k ≥ n, (c.along h agenda k).dispatcher.isOver = true ∨ (c.along h agenda k).Idle := by
  obtain ⟨n, hlast⟩ := exists_told_last hh hc hnobody
  obtain ⟨k, hk, hover | ⟨memory, hwaiting⟩⟩ := exists_rest hserves c h n
  · exact ⟨k, fun j hj => .inl (over_along hover hj)⟩
  · have hidle : (c.along h agenda k).Idle := by
      refine ⟨⟨memory, hwaiting⟩, ?_⟩
      by_contra hpending
      obtain ⟨j, hj, hmore⟩ := exists_tell hserves hwaiting hpending
      rw [hlast j (Nat.le_trans hk hj), hlast k hk] at hmore
      exact Nat.lt_irrefl _ hmore
    exact ⟨k, fun j hj => .inr (hidle.along hnobody hj)⟩

end Course

namespace Delivery

variable {d d' : Delivery μ ε} {now : Nat} {pool pool' : Workers}

theorem pending_of_step? (hstep : d.step? now pool = some (d', pool')) :
    ∃ e rest, d.session.events.pending = e :: rest := by
  unfold step? EventQueue.pop? at hstep
  cases hpending : d.session.events.pending with
  | nil => simp [hpending] at hstep
  | cons e rest => exact ⟨e, rest, rfl⟩

/-- A delivery has less left to do behind each event. -/
theorem weight_step? (hh : ∀ h ∈ d.handler, h.Moderate) (hstep : d.step? now pool = some (d', pool')) :
    d'.weight < d.weight := by
  let c : Course μ ε := { session := d.session, dispatcher := .waiting d.memory }
  have hc : c.Shows { d with handler := some (d.handler.getD .deaf) } :=
    ⟨rfl, by rw [if_pos (step?_cases hstep).1]⟩
  have hmoderate : (d.handler.getD .deaf).Moderate := by
    cases hhandler : d.handler with
    | none => exact moderate_deaf
    | some h => exact hh h hhandler
  obtain ⟨n, hshows⟩ := Course.exists_run_of_step? hc rfl (step?_deaf hstep)
  rw [Course.run_cons, Course.run_replicate_act] at hshows
  obtain ⟨e, rest, hpending⟩ := pending_of_step? hstep
  have htells : c.tell (d.handler.getD .deaf) ≠ c := by
    intro hsame
    have htold := Course.told_tell (h := d.handler.getD .deaf) (c := c) rfl hpending
    rw [hsame] at htold
    cases htold
  calc d'.weight
      = ((Course.act now)^[n] (c.tell (d.handler.getD .deaf))).weight := (weight_of_shows hshows).symm
    _ ≤ (c.tell (d.handler.getD .deaf)).weight :=
        Course.weight_acts_le ((Course.moderate_start d.session d.memory).tell hmoderate) now n
    _ < c.weight := (c.weight_tell _).resolve_left htells
    _ = d.weight := rfl

theorem exists_settled (hh : ∀ h ∈ d.handler, h.Moderate) (now : Nat) (pool : Workers) :
    ∃ fuel, (settle now fuel d pool).1.step? now (settle now fuel d pool).2 = none := by
  induction hweight : d.weight using WellFoundedLT.induction generalizing d pool with
  | ind w ih =>
    cases hstep : d.step? now pool with
    | none => exact ⟨0, hstep⟩
    | some next =>
      obtain ⟨d', pool'⟩ := next
      obtain ⟨-, -, hhandler, -⟩ := step?_cases hstep
      obtain ⟨fuel, hend⟩ := ih _ (hweight ▸ weight_step? hh hstep) (hhandler ▸ hh) pool' rfl
      refine ⟨fuel + 1, ?_⟩
      rw [settle, hstep]
      exact hend

/-- More fuel makes no difference to a delivery that has come to its end. -/
theorem settle_add {fuel : Nat} (hend : (settle now fuel d pool).1.step? now (settle now fuel d pool).2 = none)
    (more : Nat) : settle now (fuel + more) d pool = settle now fuel d pool := by
  induction fuel generalizing d pool with
  | zero =>
    rw [settle] at hend ⊢
    cases more with
    | zero => rfl
    | succ more => rw [Nat.zero_add, settle, hend]
  | succ fuel ih =>
    rw [Nat.succ_add, settle, settle]
    rw [settle] at hend
    cases hstep : d.step? now pool with
    | none => rfl
    | some next =>
      rw [hstep] at hend
      exact ih hend

theorem pending_of_step?_eq_none (hd : d.phase = .finished ∨ d.phase = .running ∧ pool.stopped = false)
    (hnone : d.step? now pool = none) : d.phase = .finished ∨ d.session.events.pending = [] := by
  refine hd.imp_right fun ⟨hrunning, hpool⟩ => ?_
  unfold step? EventQueue.pop? at hnone
  cases hpending : d.session.events.pending with
  | nil => rfl
  | cons e rest =>
    have hready : ¬ (d.phase ≠ .running ∨ pool.stopped = true) := by simp [hrunning, hpool]
    rw [if_neg hready] at hnone
    simp only [hpending] at hnone
    split at hnone <;> cases hnone

/-- A delivery that runs goes on until nothing is left, or ends behind the disconnect. -/
theorem pending_of_settled {fuel : Nat}
    (hd : d.phase = .finished ∨ d.phase = .running ∧ pool.stopped = false)
    (hend : (settle now fuel d pool).1.step? now (settle now fuel d pool).2 = none) :
    (settle now fuel d pool).1.phase = .finished ∨
      (settle now fuel d pool).1.session.events.pending = [] := by
  induction fuel generalizing d pool with
  | zero => exact pending_of_step?_eq_none hd hend
  | succ fuel ih =>
    rw [settle] at hend ⊢
    cases hstep : d.step? now pool with
    | none => exact pending_of_step?_eq_none hd hstep
    | some next =>
      rw [hstep] at hend
      obtain ⟨d', pool'⟩ := next
      obtain ⟨-, hpool, -, -, ⟨hfinished, -⟩ | ⟨hrunning, rfl⟩⟩ := step?_cases hstep
      · exact ih (.inl hfinished) hend
      · exact ih (.inr ⟨hrunning, hpool⟩) hend

end Delivery

/-- Delivery settles where the callbacks for what was sent and for exceptions send nothing, whatever they
do else, and whatever the other callbacks do and what becomes of it. In every course of every session in
which nobody else fires an event, the handler is told of finitely many; and if the dispatcher goes on it
comes to wait for good with nothing in the queue, or is over, which it is behind the disconnect only. A
delivery in one go comes to an end, where nothing is left to deliver unless the disconnect was delivered.
-/
theorem delivery_settles {h : Handler μ ε} (hh : h.Moderate) :
    (∀ (s : Session ε) (memory : μ) (agenda : Agenda),
      let c := (Course.start s memory).along h agenda
      (Course.start s memory).Undisturbed h agenda →
        (∃ n, ∀ k ≥ n, (c k).told = (c n).told) ∧
        (agenda.Serves → ∃ n, ∀ k ≥ n,
          (c k).dispatcher.isOver = true ∧ .disconnect ∈ (c k).told ∨ (c k).Idle)) ∧
    ∀ (d : Delivery μ ε), d.handler = some h → ∀ now pool, ∃ fuel,
      let (d', pool') := Delivery.settle now fuel d pool
      d'.step? now pool' = none ∧
        (∀ more, Delivery.settle now (fuel + more) d pool = (d', pool')) ∧
        (d.phase = .running → pool.stopped = false →
          d'.phase = .finished ∨ d'.session.events.pending = []) := by
  constructor
  · intro s memory agenda c hnobody
    have hmoderate := Course.moderate_start s memory
    refine ⟨Course.exists_told_last hh hmoderate hnobody, fun hserves => ?_⟩
    obtain ⟨n, hrest⟩ := Course.exists_idle hserves hh hmoderate hnobody
    refine ⟨n, fun k hk => (hrest k hk).imp_left fun hover => ⟨hover, ?_⟩⟩
    obtain ⟨memory', hmemory⟩ := Dispatcher.isOver_iff.mp hover
    exact ((Course.heard_start s memory).along h agenda k).ends memory' hmemory
  · intro d hd now pool
    have hhandler : ∀ h ∈ d.handler, h.Moderate := by
      intro h' hh'
      obtain rfl : h = h' := Option.some.inj (hd.symm.trans hh')
      exact hh
    obtain ⟨fuel, hend⟩ := Delivery.exists_settled hhandler now pool
    exact ⟨fuel, hend, fun more => Delivery.settle_add hend more,
      fun hrunning hpool => Delivery.pending_of_settled (.inr ⟨hrunning, hpool⟩) hend⟩

/-- Two callbacks send, twice and with a reply; the ones for what was sent panic, and the first one for an
exception closes the session. -/
theorem delivery_settles_panicking :
    let h : Handler Unit Empty := ⟨fun _ e => match e with
      | .connect => .send [104] fun _ => .send [105] fun _ => .nothing ()
      | .receive line => .done () (some line)
      | .sent _ => .panic ()
      | .exception _ => .close fun _ => .nothing ()
      | _ => .nothing ()⟩
    let s : Session Empty :=
      { Session.new 0 { Settings.server "localhost" 6380 with handled := true } .line with
        stage := .connected
        writer := Writer.absent.install
        events := ⟨[.connect, .receive [111]], true, false⟩ }
    let d : Delivery Unit Empty := ⟨s, some h, (), true, .running⟩
    let c := (Course.start s ()).along h (Agenda.turning [])
    (h.Moderate ∧ (Course.start s ()).Undisturbed h (Agenda.turning [])) ∧
      (∃ n, ∀ k ≥ n, (c k).dispatcher.isOver = true ∧ .disconnect ∈ (c k).told ∨ (c k).Idle) ∧
      ∃ fuel, (Delivery.settle 0 fuel d (.start 2)).1.phase = .finished ∨
        (Delivery.settle 0 fuel d (.start 2)).1.session.events.pending = [] := by
  intro h s d c
  have hmoderate : h.Moderate := by
    intro memory e he
    cases e with
    | sent | exception => simp [h, Script.Sendless, Script.nothing]
    | _ => cases he
  have hnobody : (Course.start s ()).Undisturbed h (Agenda.turning []) :=
    fun n d hd => absurd hd (Agenda.turning_ne (m := .deed d) List.not_mem_nil nofun nofun n)
  obtain ⟨hcourse, hdelivery⟩ := delivery_settles hmoderate
  obtain ⟨fuel, -, -, hend⟩ := hdelivery d rfl 0 (.start 2)
  exact ⟨⟨hmoderate, hnobody⟩, (hcourse s () (Agenda.turning []) hnobody).2 (Agenda.serves_turning []),
    fuel, hend rfl rfl⟩

/-- A handler that sends again what was sent is never done, so that the condition on such callbacks is
needed. -/
theorem Delivery.pending_of_resending {h : Handler μ ε} {data : Bytes}
    (hh : ∀ memory, h.respond memory (.sent data) = .send data fun _ => .nothing memory) {d : Delivery μ ε}
    (hd : d.handler = some h) (hrunning : d.phase = .running) (hs : d.session.Sends)
    (hopen : d.session.events.disconnected = false) (hpending : d.session.events.pending = [.sent data])
    {pool : Workers} (hpool : pool.stopped = false) (now fuel : Nat) :
    (settle now fuel d pool).1.session.events.pending = [.sent data] := by
  induction fuel generalizing d with
  | zero => exact hpending
  | succ fuel ih =>
    -- The event is taken, and what its callback sends queues the same event.
    let taken : Session ε := { d.session with events := { d.session.events with pending := [] } }
    have htaken : taken.Sends := ⟨hs.stage, hs.writer, hs.mode, hs.tls⟩
    obtain ⟨hok, hsends, -⟩ := htaken.send data
    have hevents : (taken.send data).2.events = taken.events.push (.sent data) := by
      rw [Session.events_send, if_pos hok]
      rfl
    have hstep : d.step? now pool = some ({ d with session := (taken.send data).2 }, pool) := by
      have hready : ¬ (d.phase ≠ .running ∨ pool.stopped = true) := by simp [hrunning, hpool]
      rw [step?, if_neg hready]
      simp only [EventQueue.pop?, hpending, hd, Handler.deliver, hh, Script.run, Script.nothing, reduceCtorEq,
        if_false]
      rfl
    rw [settle, hstep]
    refine ih hd hrunning hsends ?_ ?_
    · rw [hevents, EventQueue.disconnected_push]
      exact hopen
    · rw [hevents, EventQueue.pending_push, if_neg (by simp [taken, hopen])]
      rfl

end SessionEngine
