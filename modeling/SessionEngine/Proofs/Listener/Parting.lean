import SessionEngine.Proofs.EventTrace
import SessionEngine.Proofs.Listener.Order

/-! How guests leave a listener. Whatever is done to a session, it queues its disconnect as it closes, and
stays closed (`parts_perform`). By `departs_move` every step of a listener lets its guests leave only so,
also when its pool is stopped. -/

namespace SessionEngine

variable {ε : Type}

namespace Session

/-- `s'` is `s` later: what is closed stays closed, and who closes queues the disconnect. -/
structure Parts (s s' : Session ε) : Prop where
  shut : s'.stage.isOpen = true → s.stage.isOpen = true
  stays : s.events.disconnected = true → s'.events.disconnected = true
  queues : s.stage.isOpen = true → s'.stage.isOpen = false → s'.events.disconnected = true

def Parted (s : Session ε) : Prop := s.stage.isOpen = false ∧ s.events.disconnected = true

/-- A session that has closed has queued its disconnect. -/
def Signed (s : Session ε) : Prop := s.stage.isOpen = false → s.events.disconnected = true

variable {s s' s'' : Session ε}

theorem Parts.refl (s : Session ε) : s.Parts s := by
  refine ⟨fun hopen => hopen, fun hqueued => hqueued, fun hopen hshut => ?_⟩
  rw [hopen] at hshut
  cases hshut

theorem Parts.trans (h : s.Parts s') (h' : s'.Parts s'') : s.Parts s'' := by
  refine ⟨h.shut ∘ h'.shut, h'.stays ∘ h.stays, fun hopen hshut => ?_⟩
  cases hmid : s'.stage.isOpen with
  | true => exact h'.queues hmid hshut
  | false => exact h'.stays (h.queues hopen hmid)

theorem Parts.congr (h : s.Parts s') (hopen : s''.stage.isOpen = s'.stage.isOpen)
    (hqueue : s''.events.disconnected = s'.events.disconnected) : s.Parts s'' := by
  refine ⟨?_, ?_, ?_⟩
  · rw [hopen]
    exact h.shut
  · rw [hqueue]
    exact h.stays
  · rw [hopen, hqueue]
    exact h.queues

theorem Parts.parted (h : s.Parts s') (hs : s.Parted) : s'.Parted := by
  refine ⟨?_, h.stays hs.2⟩
  rw [Bool.eq_false_iff]
  intro hopen
  have hbefore := h.shut hopen
  rw [hs.1] at hbefore
  cases hbefore

theorem Parts.signed (h : s.Parts s') (hs : s.Signed) : s'.Signed := by
  intro hshut
  cases hopen : s.stage.isOpen with
  | true => exact h.queues hopen hshut
  | false => exact h.stays (hs hopen)

theorem parts_fire (s : Session ε) (e : Event) : s.Parts (s.fire e) := by
  have hstage : (s.fire e).stage = s.stage := (stays_fire s e).stage
  refine ⟨?_, fun hqueued => ?_, fun hopen hshut => ?_⟩
  · rw [hstage]
    exact fun hopen => hopen
  · rw [events_fire, EventQueue.disconnected_fire]
    exact .inl hqueued
  · rw [hstage, hopen] at hshut
    cases hshut

end Session

namespace Listener

/-- What holds of every guest: the pool is not its own, and it closes only with its disconnect. -/
structure Proper (g : Guest μ ε) : Prop where
  ownsPool : g.delivery.ownsPool = false
  signed : g.session.Signed

/-- Every guest stays and closes only with its disconnect, and who comes is proper. -/
structure Departs (guests guests' : List (Guest μ ε)) : Prop where
  stays : ∀ (i : Nat) (g : Guest μ ε), guests[i]? = some g → ∃ g' : Guest μ ε, guests'[i]? = some g' ∧
    g.session.Parts g'.session ∧ g'.delivery.ownsPool = g.delivery.ownsPool
  comes : ∀ (i : Nat) (g : Guest μ ε), guests[i]? = none → guests'[i]? = some g → Proper g

variable {l l' : Listener μ ε}

theorem Departs.refl (guests : List (Guest μ ε)) : Departs guests guests := by
  refine ⟨fun i g hg => ⟨g, hg, .refl g.session, rfl⟩, fun i g hnone hsome => ?_⟩
  rw [hnone] at hsome
  cases hsome

theorem Proper.parts {g' : Guest μ ε} (hg : Proper g) (hparts : g.session.Parts g'.session)
    (howns : g'.delivery.ownsPool = g.delivery.ownsPool) : Proper g' :=
  ⟨howns.trans hg.ownsPool, hparts.signed hg.signed⟩

theorem Departs.trans {guests guests' guests'' : List (Guest μ ε)} (h : Departs guests guests')
    (h' : Departs guests' guests'') : Departs guests guests'' := by
  refine ⟨fun i g hg => ?_, fun i g'' hnone hsome => ?_⟩
  · obtain ⟨g', hg', hparts, howns⟩ := h.stays i g hg
    obtain ⟨g'', hg'', hparts', howns'⟩ := h'.stays i g' hg'
    exact ⟨g'', hg'', hparts.trans hparts', howns'.trans howns⟩
  · cases hmid : guests'[i]? with
    | none => exact h'.comes i g'' hmid hsome
    | some g' =>
      obtain ⟨g, hg, hparts, howns⟩ := h'.stays i g' hmid
      obtain rfl : g = g'' := Option.some.inj (hg.symm.trans hsome)
      exact (h.comes i g' hnone hmid).parts hparts howns

theorem Departs.proper {guests guests' : List (Guest μ ε)} (h : Departs guests guests')
    (hproper : ∀ g ∈ guests, Proper g) : ∀ g ∈ guests', Proper g := by
  intro g' hg'
  obtain ⟨i, hi⟩ := List.mem_iff_getElem?.mp hg'
  cases hold : guests[i]? with
  | none => exact h.comes i g' hold hi
  | some g =>
    obtain ⟨g'', hg'', hparts, howns⟩ := h.stays i g hold
    obtain rfl : g'' = g' := Option.some.inj (hg''.symm.trans hi)
    exact (hproper g (List.mem_of_getElem? hold)).parts hparts howns

theorem Departs.length_le {guests guests' : List (Guest μ ε)} (h : Departs guests guests') :
    guests.length ≤ guests'.length := by
  by_contra hlt
  obtain ⟨g', hg', -⟩ := h.stays guests'.length _ (List.getElem?_eq_getElem (by omega))
  rw [List.getElem?_eq_none (Nat.le_refl _)] at hg'
  cases hg'

theorem departs_modify (l : Listener μ ε) (i : Nat) {f : Guest μ ε → Guest μ ε}
    (hf : ∀ g, l.guests[i]? = some g → g.session.Parts (f g).session ∧
      (f g).delivery.ownsPool = g.delivery.ownsPool) :
    Departs l.guests (l.modify i f).guests := by
  refine ⟨fun j g hg => ?_, fun j g' hnone hsome => ?_⟩
  · refine ⟨if i = j then f g else g, ?_, ?_⟩
    · simp only [modify, List.getElem?_modify, hg]
      rfl
    · split
      next heq =>
        subst heq
        exact hf g hg
      · exact ⟨.refl g.session, rfl⟩
  · obtain ⟨g, hg, -⟩ := getElem?_modify hsome
    rw [hnone] at hg
    cases hg

theorem departs_modifySession (l : Listener μ ε) (i : Nat) {f : Session ε → Session ε}
    (hf : ∀ s : Session ε, s.Parts (f s)) : Departs l.guests (l.modifySession i f).guests :=
  l.departs_modify i fun g _ => ⟨hf g.session, rfl⟩

theorem departs_accept? {addresses : Option String × Option String} (h : l.accept? addresses = some l') :
    Departs l.guests l'.guests := by
  obtain ⟨-, -, new, hsession, howns, -, rfl⟩ := accept?_eq_some h
  refine ⟨fun j g hg => ⟨g, ?_, .refl g.session, rfl⟩, fun j g hnone hsome => ?_⟩
  · rw [List.getElem?_append_left (List.getElem?_eq_some_iff.mp hg).1]
    exact hg
  · rcases getElem?_comes hsome with hold | ⟨rfl, rfl⟩
    · rw [hnone] at hold
      cases hold
    · refine ⟨howns, fun hshut => ?_⟩
      rw [hsession] at hshut
      cases hshut

end Listener

variable [Tls.RecordEngine ε]

namespace Session

theorem parts_close (s : Session ε) : s.Parts s.close.2 := by
  rcases close_cases s with ⟨-, h⟩ | ⟨-, writer, tls, -, h⟩ <;> rw [h]
  · exact .refl s
  · have hqueued := EventQueue.disconnected_fireDisconnect s.events
    exact ⟨nofun, fun _ => hqueued, fun _ _ => hqueued⟩

theorem Signed.parted_close {s : Session ε} (hs : s.Signed) : s.close.2.Parted := by
  rcases close_cases s with ⟨hshut, h⟩ | ⟨-, writer, tls, -, h⟩ <;> rw [h]
  · exact ⟨hshut, hs hshut⟩
  · exact ⟨rfl, EventQueue.disconnected_fireDisconnect s.events⟩

/-- No operation closes a session without its disconnect. -/
theorem parts_perform (s : Session ε) (now : Nat) (d : Deed) : s.Parts (s.perform now d) := by
  refine ⟨(s.passes_perform now d).shut, fun hqueued => ?_, fun hopen hshut => ?_⟩ <;>
    rw [events_perform, EventQueue.disconnected_foldl]
  · exact .inl hqueued
  · refine .inr ((isOpen_perform hopen now d).resolve_left fun hstill => ?_)
    rw [hshut] at hstill
    cases hstill

end Session

theorem Course.parts_run (h : Handler μ ε) (moves : List (Nat × Move)) (c : Course μ ε) :
    c.session.Parts (c.run h moves).session := by
  refine run_keeps (fun c' => c.session.Parts c'.session)
    (fun {c'} now d hc => hc.trans (c'.session.parts_perform now d)) (fun {c'} hc => ?_)
    (fun _ hc => hc) (.refl c.session)
  obtain ⟨-, events, htell, hqueue⟩ := c'.queued_tell h
  rw [htell]
  exact hc.congr rfl hqueue

theorem Delivery.parts_step? {d d' : Delivery μ ε} {now : Nat} {pool pool' : Workers}
    (hstep : d.step? now pool = some (d', pool')) : d.session.Parts d'.session := by
  obtain ⟨c, h, moves, hbefore, hafter⟩ := exists_run hstep
  rw [← hbefore, ← hafter]
  exact c.parts_run h moves

theorem Opening.parts_run (o : Opening ε) (now : Nat) (s : Session ε) (t : Traffic) :
    s.Parts (o.run now s t).2.1 :=
  run_keeps (fun hready hs => hs.congr (congrArg Stage.isOpen hready.stage)
      (congrArg EventQueue.disconnected hready.events))
    (fun {s'} hs => hs.trans s'.parts_close) (fun {s'} e hs => hs.trans (s'.parts_fire e))
    (fun hconnecting hs => hs.congr (by rw [hconnecting]; rfl) rfl) now (.refl s) t

namespace Listener

theorem departs_deliver? {l l' : Listener μ ε} {i now : Nat} (h : l.deliver? i now = some l') :
    Departs l.guests l'.guests := by
  obtain ⟨g, delivery, pool, hg, hstep, rfl⟩ := deliver?_eq_some h
  refine departs_modify { l with pool } i fun g' hg' => ?_
  obtain rfl : g = g' := Option.some.inj (hg.symm.trans hg')
  exact ⟨Delivery.parts_step? hstep, (Delivery.step?_pool hstep).1⟩

theorem departs_move (l : Listener μ ε) (now : Nat) (m : Move ε) :
    Departs l.guests (l.move now m).guests := by
  have hgetD := getD_keeps (fun l' => Departs l.guests l'.guests) (.refl l.guests)
  cases m with
  | accept addresses => exact hgetD _ fun l' h => departs_accept? h
  | register =>
    refine hgetD _ fun l' h => ?_
    obtain ⟨i, -, rfl⟩ := register?_eq_some h
    exact .refl l.guests
  | employ =>
    refine hgetD _ fun l' h => ?_
    obtain ⟨i, -, rfl⟩ := employ?_eq_some h
    split
    · exact .refl l.guests
    · exact departs_modify { l with accepting := .waiting } _ fun g _ => ⟨.refl g.session, rfl⟩
  | establish i o =>
    refine hgetD _ fun l' h => ?_
    obtain ⟨g, result, s, traffic, hg, -, hrun, rfl⟩ := open?_eq_some h
    have hparts := (g.opening o).parts_run now g.session l.traffic
    rw [hrun] at hparts
    refine departs_modify { l with traffic } i fun g' hg' => ?_
    obtain rfl : g = g' := Option.some.inj (hg.symm.trans hg')
    exact ⟨hparts, rfl⟩
  | beginLoop i =>
    refine hgetD _ fun l' h => ?_
    obtain rfl := beginLoop?_eq_some h
    exact l.departs_modify i fun g _ => ⟨(Session.Parts.refl g.session).congr rfl rfl, rfl⟩
  | watch i =>
    refine hgetD _ fun l' h => ?_
    obtain ⟨g, -, -, rfl⟩ := watch?_eq_some h
    exact l.departs_modify i fun g _ => ⟨(Session.Parts.refl g.session).congr rfl rfl, rfl⟩
  | deregister i =>
    refine hgetD _ fun l' h => ?_
    obtain ⟨g, -, -, -, rfl⟩ := deregister?_eq_some h
    exact l.departs_modify i fun g _ => ⟨.refl g.session, rfl⟩
  | deliver i => exact hgetD _ fun l' h => departs_deliver? h
  | deed i d => exact l.departs_modifySession i fun s => s.parts_perform now d
  | visit i => exact l.departs_modifySession i fun s => (Session.Parts.refl s).congr rfl rfl
  | leave i =>
    refine l.departs_modify i fun g _ => ?_
    split
    · exact ⟨(Session.Parts.refl g.session).congr rfl rfl, rfl⟩
    · exact ⟨.refl g.session, rfl⟩

end Listener

end SessionEngine
