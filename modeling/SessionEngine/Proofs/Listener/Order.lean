import Mathlib.Data.List.Nodup
import SessionEngine.Listener
import SessionEngine.Proofs.Opening
import SessionEngine.Proofs.Session.Heeding

/-! A running listener, step by step. Its accept loop, the tasks that tend its guests, the deliveries of
their events, their loops and whoever else knows a guest take their steps in any order. What each step can do
is said once, from `accept?_eq_some` to `deliver?_eq_some`. `Orderly` says how the register, the accept loop
and the tending tasks agree between any two steps, and by `Orderly.move` every step keeps it, while the guests
stay and heed their closes (`Follows`). -/

namespace SessionEngine

variable {ε : Type}

theorem Delivery.session_start (d : Delivery μ ε) (pool : Workers) : (d.start pool).session = d.session := by
  unfold start
  split <;> rfl

theorem Delivery.ownsPool_start (d : Delivery μ ε) (pool : Workers) :
    (d.start pool).ownsPool = d.ownsPool := by
  unfold start
  split <;> rfl

namespace Listener

inductive Move (ε : Type) where
  | accept (addresses : Option String × Option String)
  | register
  | employ
  | establish (i : Nat) (o : Opening ε)
  | beginLoop (i : Nat)
  | watch (i : Nat)
  | deregister (i : Nat)
  | deliver (i : Nat)
  /-- Somebody does something to the session of a guest. -/
  | deed (i : Nat) (d : Deed)
  /-- Somebody else begins to watch for the close of a guest. -/
  | visit (i : Nat)
  /-- Somebody other than the tending task watches no more. -/
  | leave (i : Nat)

end Listener

namespace Guest

variable {μ : Type}

def session (g : Guest μ ε) : Session ε := g.delivery.session

def isOpen (g : Guest μ ε) : Bool := g.session.stage.isOpen

/-- The session has closed, and nobody hears of it. -/
def unheard (g : Guest μ ε) : Bool := !g.isOpen && !g.session.closeSignal.raised

/-- Somebody besides the tending task watches for the close. -/
def visited (g : Guest μ ε) : Bool :=
  (if g.tending = .watching then 1 else 0) < g.session.closeSignal.watchers

def withSession (g : Guest μ ε) (s : Session ε) : Guest μ ε :=
  { g with delivery := { g.delivery with session := s } }

def opening (g : Guest μ ε) (o : Opening ε) : Opening ε := { o with connection := .ok g.addresses }

end Guest

namespace Listener

/-- How a guest, the accept loop and the register agree. -/
structure Tended (register : List Nat) (accepting : AcceptPhase) (i : Nat) (g : Guest μ ε) : Prop where
  ownsPool : g.delivery.ownsPool = false
  listed : i ∈ register ↔ accepting ≠ .made i ∧ g.tending ≠ .over
  nobody : g.tending = .nobody ↔ accepting = .made i ∨ accepting = .registered i
  watched : g.tending = .watching → g.session.closeSignal.watchers ≠ 0
  ended : g.tending = .over → g.session.closeSignal.raised = true
  shut : g.session.closeSignal.raised = true → g.isOpen = false

/-- What holds of a running listener between any two steps. -/
structure Orderly (l : Listener μ ε) : Prop where
  running : l.pool.stopped = false
  tended : ∀ i g, l.guests[i]? = some g → Tended l.register l.accepting i g
  listed : ∀ i ∈ l.register, i < l.guests.length
  nodup : l.register.Nodup
  accepting : ∀ i, l.accepting = .made i ∨ l.accepting = .registered i → i < l.guests.length

/-- Every guest stays and heeds its close, and who comes is open. -/
structure Follows (guests guests' : List (Guest μ ε)) : Prop where
  stays : ∀ (i : Nat) (g : Guest μ ε), guests[i]? = some g →
    ∃ g' : Guest μ ε, guests'[i]? = some g' ∧ g.session.Heeds g'.session
  comes : ∀ (i : Nat) (g : Guest μ ε), guests[i]? = none → guests'[i]? = some g → g.isOpen = true

variable {l l' : Listener μ ε} {i : Nat} {g : Guest μ ε}

theorem Follows.refl (guests : List (Guest μ ε)) : Follows guests guests := by
  refine ⟨fun i g hg => ⟨g, hg, .refl g.session⟩, fun i g hnone hsome => ?_⟩
  rw [hnone] at hsome
  cases hsome

theorem Follows.stayed_or_came {guests guests' : List (Guest μ ε)} {g' : Guest μ ε}
    (h : Follows guests guests') (hg' : guests'[i]? = some g') :
    (∃ g, guests[i]? = some g ∧ g.session.Heeds g'.session) ∨
      guests[i]? = none ∧ g'.isOpen = true := by
  cases hg : guests[i]? with
  | none => exact .inr ⟨rfl, h.comes i g' hg hg'⟩
  | some g =>
    obtain ⟨g'', hg'', hheeds⟩ := h.stays i g hg
    obtain rfl : g'' = g' := Option.some.inj (hg''.symm.trans hg')
    exact .inl ⟨g, rfl, hheeds⟩

theorem Follows.eq_none {guests guests' : List (Guest μ ε)} (h : Follows guests guests')
    (hnone : guests'[i]? = none) : guests[i]? = none := by
  cases hg : guests[i]? with
  | none => rfl
  | some g =>
    obtain ⟨g', hg', -⟩ := h.stays i g hg
    rw [hnone] at hg'
    cases hg'

/-- What is done to the session of a guest leaves it tended, if its task goes on to watch. -/
theorem Tended.withSession {register : List Nat} {accepting : AcceptPhase}
    (h : Tended register accepting i g) {s : Session ε} (hs : g.session.Heeds s)
    (hwatched : g.tending = .watching → s.closeSignal.watchers ≠ 0) :
    Tended register accepting i (g.withSession s) := by
  refine ⟨h.ownsPool, h.listed, h.nobody, hwatched, fun hover => ?_, hs.shut_of_raised h.shut⟩
  exact hs.raised.mpr (.inl (h.ended hover))

/-- A task that is at work on a guest goes on to its next step, and is at work still. -/
theorem Tended.goOn {register : List Nat} {accepting : AcceptPhase} {g' : Guest μ ε}
    (h : Tended register accepting i g) (hbefore : g.tending ≠ .nobody ∧ g.tending ≠ .over)
    (hafter : g'.tending ≠ .nobody ∧ g'.tending ≠ .over)
    (howns : g'.delivery.ownsPool = g.delivery.ownsPool) (hs : g.session.Heeds g'.session)
    (hwatched : g'.tending = .watching → g'.session.closeSignal.watchers ≠ 0) :
    Tended register accepting i g' := by
  refine ⟨howns.trans h.ownsPool, ?_, ?_, hwatched, fun hover => absurd hover hafter.2,
    hs.shut_of_raised h.shut⟩
  · rw [h.listed]
    simp only [hbefore.2, hafter.2, ne_eq, not_false_eq_true]
  · rw [← h.nobody]
    exact iff_of_false hafter.1 hbefore.1

theorem getElem?_modify {f : Guest μ ε → Guest μ ε} {j : Nat} {g' : Guest μ ε}
    (h : (l.modify i f).guests[j]? = some g') :
    ∃ g, l.guests[j]? = some g ∧ g' = if i = j then f g else g := by
  simp only [modify, List.getElem?_modify] at h
  obtain ⟨g, hg, rfl⟩ := Option.map_eq_some_iff.mp h
  exact ⟨g, hg, rfl⟩

theorem Tended.congr {register register' : List Nat} {accepting accepting' : AcceptPhase}
    (h : Tended register accepting i g) (hlisted : i ∈ register' ↔ i ∈ register)
    (hmade : accepting' = .made i ↔ accepting = .made i)
    (hregistered : accepting' = .registered i ↔ accepting = .registered i) :
    Tended register' accepting' i g := by
  refine ⟨h.ownsPool, ?_, ?_, h.watched, h.ended, h.shut⟩
  · rw [hlisted, h.listed, ne_eq, ← hmade]
  · rw [h.nobody, hmade, hregistered]

/-- A step that changes one guest, and for that guest the register and where the accept loop stands. -/
theorem Orderly.change (hl : l.Orderly) (i : Nat) {f : Guest μ ε → Guest μ ε} {register : List Nat}
    {accepting : AcceptPhase} (hguest : ∀ g, l.guests[i]? = some g →
      Tended register accepting i (f g) ∧ g.session.Heeds (f g).session)
    (hothers : ∀ j, j ≠ i → (j ∈ register ↔ j ∈ l.register) ∧
      (accepting = .made j ↔ l.accepting = .made j) ∧
      (accepting = .registered j ↔ l.accepting = .registered j))
    (hlisted : ∀ j ∈ register, j < l.guests.length) (hnodup : register.Nodup)
    (haccepting : ∀ j, accepting = .made j ∨ accepting = .registered j → j < l.guests.length) :
    Orderly { l.modify i f with register, accepting } ∧
      Follows l.guests (l.modify i f).guests := by
  have hlength : (l.modify i f).guests.length = l.guests.length := List.length_modify ..
  refine ⟨⟨hl.running, fun j g' hg' => ?_, fun j hj => ?_, hnodup, fun j hj => ?_⟩,
    ⟨fun j g hg => ?_, fun j g' hnone hsome => ?_⟩⟩
  · obtain ⟨g, hg, rfl⟩ := getElem?_modify hg'
    split
    next heq =>
      subst heq
      exact (hguest g hg).1
    next hne =>
      obtain ⟨hj, hmade, hregistered⟩ := hothers j (Ne.symm hne)
      exact (hl.tended j g hg).congr hj hmade hregistered
  · exact Nat.lt_of_lt_of_eq (hlisted j hj) hlength.symm
  · exact Nat.lt_of_lt_of_eq (haccepting j hj) hlength.symm
  · refine ⟨if i = j then f g else g, ?_, ?_⟩
    · simp only [Listener.modify, List.getElem?_modify, hg]
      rfl
    · split
      next heq =>
        subst heq
        exact (hguest g hg).2
      · exact .refl g.session
  · obtain ⟨g, hg, -⟩ := getElem?_modify hsome
    rw [hnone] at hg
    cases hg

theorem Orderly.modify (hl : l.Orderly) (i : Nat) {f : Guest μ ε → Guest μ ε}
    (hguest : ∀ g, l.guests[i]? = some g →
      Tended l.register l.accepting i (f g) ∧ g.session.Heeds (f g).session) :
    (l.modify i f).Orderly ∧ Follows l.guests (l.modify i f).guests :=
  hl.change i hguest (fun _ _ => ⟨Iff.rfl, Iff.rfl, Iff.rfl⟩) hl.listed hl.nodup hl.accepting

theorem Orderly.modifySession (hl : l.Orderly) (i : Nat) {f : Session ε → Session ε}
    (hf : ∀ s : Session ε, s.Heeds (f s))
    (hwatched : ∀ s : Session ε, s.closeSignal.watchers ≠ 0 → (f s).closeSignal.watchers ≠ 0) :
    (l.modifySession i f).Orderly ∧ Follows l.guests (l.modifySession i f).guests := by
  refine hl.modify i fun g hg => ?_
  have htended := hl.tended i g hg
  exact ⟨htended.withSession (hf g.session) fun h => hwatched g.session (htended.watched h), hf g.session⟩

theorem running?_filter {p : Guest μ ε → Bool} (h : (l.running? i).filter p = some g) :
    l.guests[i]? = some g ∧ p g = true := by
  obtain ⟨hrunning, hp⟩ := Option.filter_eq_some_iff.mp h
  unfold running? at hrunning
  split at hrunning
  · cases hrunning
  · exact ⟨hrunning, hp⟩

theorem modify_modify (l : Listener μ ε) (i : Nat) (f f' : Guest μ ε → Guest μ ε) :
    (l.modify i f).modify i f' = l.modify i (f' ∘ f) := by
  simp only [modify, List.modify_modify_eq]

/-! ### What a step can do -/

/-- Who comes is a new session on the pool of the listener, which nobody tends yet. -/
theorem accept?_eq_some {addresses : Option String × Option String} (h : l.accept? addresses = some l') :
    l.accepting = .waiting ∧ l.pool.stopped = false ∧ ∃ g : Guest μ ε,
      g.session = Session.new (l.firstId + l.guests.length) l.settings.accepted l.splitter ∧
      g.delivery.ownsPool = false ∧ g.tending = .nobody ∧
      l' = { l with guests := l.guests ++ [g], accepting := .made l.guests.length } := by
  unfold accept? at h
  split at h
  next hready =>
    refine ⟨hready.1, hready.2, _, ?_, ?_, ?_, (Option.some.inj h).symm⟩
    · rw [Guest.session, Delivery.session_start]
    · exact Delivery.ownsPool_start ..
    · rfl
  · cases h

theorem register?_eq_some (h : l.register? = some l') : ∃ i, l.accepting = .made i ∧
    l' = { l with register := l.register ++ [i], accepting := .registered i } := by
  unfold register? at h
  split at h
  next i hmade => exact ⟨i, hmade, (Option.some.inj h).symm⟩
  · cases h

theorem employ?_eq_some (h : l.employ? = some l') : ∃ i, l.accepting = .registered i ∧
    l' = if l.pool.stopped then { l with accepting := .waiting }
      else { l with accepting := .waiting }.modify i fun g => { g with tending := .queued } := by
  unfold employ? at h
  split at h
  next i hregistered => exact ⟨i, hregistered, (Option.some.inj h).symm⟩
  · cases h

theorem beginLoop?_eq_some (h : l.beginLoop? i = some l') :
    l' = l.modify i fun g => { g.withSession g.session.watchClose with loops := g.loops - 1 } := by
  unfold beginLoop? at h
  split at h
  · cases h
  · obtain rfl := Option.some.inj h
    rw [modifySession, modify_modify]
    rfl

theorem watch?_eq_some (h : l.watch? i = some l') :
    ∃ g, l.guests[i]? = some g ∧ g.tending = .opened ∧
      l' = l.modify i fun g => { g.withSession g.session.watchClose with tending := .watching } := by
  unfold watch? at h
  split at h
  · cases h
  next g hfound =>
    obtain ⟨hg, hopened⟩ := running?_filter hfound
    obtain rfl := Option.some.inj h
    refine ⟨g, hg, by simpa using hopened, ?_⟩
    rw [modifySession, modify_modify]
    rfl

theorem deregister?_eq_some (h : l.deregister? i = some l') :
    ∃ g, l.guests[i]? = some g ∧ g.tending = .watching ∧ g.session.closeSignal.raised = true ∧
      l' = { l.modify i fun g => { g with tending := .over } with
        register := l.register.filter (· != i) } := by
  unfold deregister? at h
  split at h
  · cases h
  next g hfound =>
    obtain ⟨hg, hsees⟩ := running?_filter hfound
    obtain ⟨hwatching, hraised⟩ : g.tending = .watching ∧ g.session.closeSignal.raised = true := by
      simpa [Guest.session] using hsees
    exact ⟨g, hg, hwatching, hraised, (Option.some.inj h).symm⟩

/-! ### The steps -/

theorem getElem?_comes {guests : List (Guest μ ε)} {new : Guest μ ε} {j : Nat}
    (h : (guests ++ [new])[j]? = some g) : guests[j]? = some g ∨ j = guests.length ∧ g = new := by
  rcases Nat.lt_or_ge j guests.length with hlt | hge
  · rw [List.getElem?_append_left hlt] at h
    exact .inl h
  · have hle := (List.getElem?_eq_some_iff.mp h).1
    rw [List.length_append, List.length_singleton] at hle
    obtain rfl : j = guests.length := by omega
    rw [List.getElem?_concat_length] at h
    exact .inr ⟨rfl, (Option.some.inj h).symm⟩

theorem Orderly.accept? (hl : l.Orderly) {addresses : Option String × Option String}
    (h : l.accept? addresses = some l') : l'.Orderly ∧ Follows l.guests l'.guests := by
  obtain ⟨hwaiting, -, new, hsession, howns, hnobody, rfl⟩ := accept?_eq_some h
  refine ⟨⟨hl.running, fun j g hg => ?_, fun j hj => ?_, hl.nodup, fun j hj => ?_⟩,
    ⟨fun j g hg => ⟨g, ?_, .refl g.session⟩, fun j g hnone hsome => ?_⟩⟩
  · rcases getElem?_comes hg with hold | ⟨rfl, rfl⟩
    · have hne : l.guests.length ≠ j := by
        rintro rfl
        have hlt := (List.getElem?_eq_some_iff.mp hold).1
        omega
      refine (hl.tended j g hold).congr Iff.rfl ?_ ?_ <;> simp [hwaiting, hne]
    · have hfresh : l.guests.length ∉ l.register := by
        intro hmem
        have hlt := hl.listed _ hmem
        omega
      refine ⟨howns, by simp [hfresh], by simp [hnobody], fun hwatching => ?_, fun hover => ?_,
        fun hraised => ?_⟩
      · rw [hnobody] at hwatching
        cases hwatching
      · rw [hnobody] at hover
        cases hover
      · rw [hsession] at hraised
        cases hraised
  · have hlt := hl.listed j hj
    rw [List.length_append]
    omega
  · rw [List.length_append, List.length_singleton]
    rcases hj with hj | hj <;> cases hj
    omega
  · rw [List.getElem?_append_left (List.getElem?_eq_some_iff.mp hg).1]
    exact hg
  · rcases getElem?_comes hsome with hold | ⟨rfl, rfl⟩
    · rw [hnone] at hold
      cases hold
    · rw [Guest.isOpen, hsession]
      rfl

theorem Orderly.register? (hl : l.Orderly) (h : l.register? = some l') :
    l'.Orderly ∧ Follows l.guests l'.guests := by
  obtain ⟨i, hmade, rfl⟩ := register?_eq_some h
  have hlt : i < l.guests.length := hl.accepting i (.inl hmade)
  have hnew : i ∉ l.register := by
    intro hi
    have htended := hl.tended i l.guests[i] (List.getElem?_eq_getElem hlt)
    exact (htended.listed.mp hi).1 hmade
  -- No guest changes, only the register and the accept loop do.
  have hsame : l.modify i id = l := by simp [Listener.modify]
  have hall : Orderly { l.modify i id with register := l.register ++ [i], accepting := .registered i } ∧
      Follows l.guests (l.modify i id).guests := by
    refine hl.change i (fun g hg => ⟨?_, .refl g.session⟩) (fun j hne => ?_) (fun j hj => ?_) ?_
      (fun j hj => ?_)
    · have htended := hl.tended i g hg
      have hnobody : g.tending = .nobody := htended.nobody.mpr (.inl hmade)
      refine ⟨htended.ownsPool, ?_, ?_, htended.watched, htended.ended, htended.shut⟩
      · simp [hnobody]
      · simp [hnobody]
    · simp [hmade, hne, Ne.symm hne]
    · rcases List.mem_append.mp hj with hj | hj
      · exact hl.listed j hj
      · rw [List.mem_singleton.mp hj]
        exact hlt
    · exact List.nodup_append.mpr ⟨hl.nodup, List.nodup_singleton i, by
        rintro a ha b hb rfl
        rw [List.mem_singleton.mp hb] at ha
        exact hnew ha⟩
    · rcases hj with hj | hj
      · cases hj
      · cases hj
        exact hlt
  rwa [hsame] at hall

theorem Orderly.employ? (hl : l.Orderly) (h : l.employ? = some l') :
    l'.Orderly ∧ Follows l.guests l'.guests := by
  obtain ⟨i, hregistered, rfl⟩ := employ?_eq_some h
  have hrunning : ¬ l.pool.stopped = true := by simp [hl.running]
  rw [if_neg hrunning]
  refine hl.change i (fun g hg => ⟨?_, .refl g.session⟩) (fun j hne => ?_) hl.listed hl.nodup
    (fun j hj => ?_)
  · have htended := hl.tended i g hg
    have hnobody : g.tending = .nobody := htended.nobody.mpr (.inr hregistered)
    refine ⟨htended.ownsPool, ?_, ?_, fun hwatching => (by cases hwatching),
      fun hover => (by cases hover), htended.shut⟩
    · rw [htended.listed]
      simp [hregistered, hnobody]
    · simp
  · simp [hregistered, Ne.symm hne]
  · rcases hj with hj | hj <;> cases hj

theorem Orderly.beginLoop? (hl : l.Orderly) (h : l.beginLoop? i = some l') :
    l'.Orderly ∧ Follows l.guests l'.guests := by
  obtain rfl := beginLoop?_eq_some h
  refine hl.modify i fun g hg => ?_
  have hheeds := (Session.Heeds.refl g.session).watch
  have htended := (hl.tended i g hg).withSession hheeds fun _ => Nat.succ_ne_zero _
  exact ⟨⟨htended.ownsPool, htended.listed, htended.nobody, htended.watched, htended.ended,
    htended.shut⟩, hheeds⟩

theorem Orderly.watch? (hl : l.Orderly) (h : l.watch? i = some l') :
    l'.Orderly ∧ Follows l.guests l'.guests := by
  obtain ⟨g, hg, hopened, rfl⟩ := watch?_eq_some h
  refine hl.modify i fun g' hg' => ?_
  obtain rfl : g = g' := Option.some.inj (hg.symm.trans hg')
  have hheeds := (Session.Heeds.refl g.session).watch
  refine ⟨(hl.tended i g hg).goOn ?_ ⟨nofun, nofun⟩ rfl hheeds fun _ => Nat.succ_ne_zero _, hheeds⟩
  rw [hopened]
  exact ⟨nofun, nofun⟩

theorem Orderly.deregister? (hl : l.Orderly) (h : l.deregister? i = some l') :
    l'.Orderly ∧ Follows l.guests l'.guests := by
  obtain ⟨g, hg, hwatching, hraised, rfl⟩ := deregister?_eq_some h
  refine hl.change i (fun g' hg' => ⟨?_, .refl g'.session⟩) (fun j hne => ⟨?_, Iff.rfl, Iff.rfl⟩)
    (fun j hj => hl.listed j (List.mem_filter.mp hj).1) (hl.nodup.filter _) hl.accepting
  · obtain rfl : g = g' := Option.some.inj (hg.symm.trans hg')
    have htended := hl.tended i g hg
    refine ⟨htended.ownsPool, ?_, ?_, fun hwatching => (by cases hwatching), fun _ => hraised,
      htended.shut⟩
    · simp
    · have hnobody := htended.nobody
      rw [hwatching] at hnobody
      simpa [Listener.modify] using hnobody
  · simp [hne]

/-- What holds behind a step, if somebody can take it, holds after it in any case. -/
theorem getD_keeps (P : Listener μ ε → Prop) (hl : P l) (l? : Option (Listener μ ε))
    (hstep : ∀ l', l? = some l' → P l') : P (l?.getD l) := by
  cases l? with
  | none => exact hl
  | some l' => exact hstep l' rfl

theorem orderly_start (settings : Settings) (splitter : Splitter) (handler : Option (Handler μ ε))
    (memory : μ) (address : String) (firstId : Nat) :
    (new settings splitter handler memory address firstId).start.2.Orderly := by
  refine ⟨rfl, fun i g hg => ?_, fun i hi => ?_, List.nodup_nil, fun i hi => ?_⟩
  · cases hg
  · cases hi
  · rcases hi with hi | hi <;> cases hi

end Listener

variable [Tls.RecordEngine ε]

theorem Course.passes_run (h : Handler μ ε) (moves : List (Nat × Move)) (c : Course μ ε) :
    c.session.Passes (c.run h moves).session := by
  refine run_keeps (fun c' => c.session.Passes c'.session)
    (fun {c'} now d hc => hc.trans (c'.session.passes_perform now d)) (fun {c'} hc => ?_)
    (fun _ hc => hc) (.refl c.session)
  obtain ⟨-, events, htell, -⟩ := c'.queued_tell h
  rw [htell]
  exact hc.congr rfl rfl

theorem Delivery.passes_step? {d d' : Delivery μ ε} {now : Nat} {pool pool' : Workers}
    (hstep : d.step? now pool = some (d', pool')) : d.session.Passes d'.session := by
  obtain ⟨c, h, moves, hbefore, hafter⟩ := exists_run hstep
  rw [← hbefore, ← hafter]
  exact c.passes_run h moves

/-- An opening heeds the closes along its way, and one that fails leaves the session closed. -/
theorem Opening.passes_run (o : Opening ε) (now : Nat) (s : Session ε) (t : Traffic) :
    s.Passes (o.run now s t).2.1 ∧
      ∀ e, (o.run now s t).1 = some (.error e) → (o.run now s t).2.1.stage.isOpen = false := by
  refine ⟨run_keeps (fun hready hs => hs.congr (congrArg Stage.isOpen hready.stage) hready.closeSignal)
    (fun {s'} hs => hs.trans s'.passes_close) (fun e hs => hs.trans (Session.stays_fire _ e).passes)
    (fun hconnecting hs => hs.congr (by rw [hconnecting]; rfl) rfl) now (.refl s) t, fun e hfail => ?_⟩
  unfold run at hfail ⊢
  split
  next h =>
    rw [h] at hfail
    cases hfail
  next h =>
    rw [h] at hfail
    cases hfail
  next e s' h =>
    rcases Session.close_cases ((o.reach .failing s').fire (.exception e.replicate)) with
      ⟨hclosed, heq⟩ | ⟨-, writer, tls, -, heq⟩
    · rw [heq]
      exact hclosed
    · rw [heq]
      rfl

namespace Listener

/-- The listener after a move at `now`; a move that is not possible changes nothing. -/
def move (l : Listener μ ε) (now : Nat) : Move ε → Listener μ ε
  | .accept addresses => (l.accept? addresses).getD l
  | .register => l.register?.getD l
  | .employ => l.employ?.getD l
  | .establish i o => (l.open? i now o).getD l
  | .beginLoop i => (l.beginLoop? i).getD l
  | .watch i => (l.watch? i).getD l
  | .deregister i => (l.deregister? i).getD l
  | .deliver i => (l.deliver? i now).getD l
  | .deed i d => l.modifySession i fun s => s.perform now d
  | .visit i => l.modifySession i (·.watchClose)
  | .leave i => l.modify i fun g => if g.visited then g.withSession g.session.unwatchClose else g

def run (moves : List (Nat × Move ε)) (l : Listener μ ε) : Listener μ ε :=
  moves.foldl (fun l m => l.move m.1 m.2) l

variable {l l' : Listener μ ε} {i now : Nat} {g : Guest μ ε}

/-! ### Openings and deliveries -/

/-- What an opening that ends makes of a guest that is to be opened. -/
theorem open?_eq_some {o : Opening ε} (h : l.open? i now o = some l') :
    ∃ g result s traffic, l.guests[i]? = some g ∧ g.tending = .queued ∧
      (g.opening o).run now g.session l.traffic = (some result, s, traffic) ∧
      l' = { l with traffic }.modify i fun g =>
        { g.withSession s with tending := .opened, loops := if result.toBool then 2 else 0 } := by
  unfold open? at h
  split at h
  · cases h
  next g hfound =>
    obtain ⟨hg, hqueued⟩ := running?_filter hfound
    split at h
    · cases h
    next result s traffic hrun =>
      exact ⟨g, result, s, traffic, hg, by simpa using hqueued, hrun, (Option.some.inj h).symm⟩

theorem deliver?_eq_some (h : l.deliver? i now = some l') :
    ∃ g delivery pool, l.guests[i]? = some g ∧ g.delivery.step? now l.pool = some (delivery, pool) ∧
      l' = { l with pool }.modify i fun g => { g with delivery } := by
  unfold deliver? at h
  split at h
  · cases h
  next g hg =>
    split at h
    · cases h
    next delivery pool hstep => exact ⟨g, delivery, pool, hg, hstep, (Option.some.inj h).symm⟩

theorem Orderly.establish? (hl : l.Orderly) {o : Opening ε}
    (h : l.open? i now o = some l') : l'.Orderly ∧ Follows l.guests l'.guests := by
  obtain ⟨g, result, s, traffic, hg, hqueued, hrun, rfl⟩ := open?_eq_some h
  have hs := ((g.opening o).passes_run now g.session l.traffic).1
  rw [hrun] at hs
  have hl' : Orderly { l with traffic } := ⟨hl.running, hl.tended, hl.listed, hl.nodup, hl.accepting⟩
  refine hl'.modify i fun g' hg' => ?_
  obtain rfl : g = g' := Option.some.inj (hg.symm.trans hg')
  refine ⟨(hl.tended i g hg).goOn ?_ ⟨nofun, nofun⟩ rfl hs.toHeeds nofun, hs.toHeeds⟩
  rw [hqueued]
  exact ⟨nofun, nofun⟩

theorem Orderly.deliver? (hl : l.Orderly) (h : l.deliver? i now = some l') :
    l'.Orderly ∧ Follows l.guests l'.guests := by
  obtain ⟨g, delivery, pool, hg, hstep, rfl⟩ := deliver?_eq_some h
  have htended := hl.tended i g hg
  have hs : g.session.Passes delivery.session := Delivery.passes_step? hstep
  obtain ⟨howns, hpool⟩ := Delivery.step?_pool hstep
  have hl' : Orderly { l with pool } :=
    ⟨(congrArg Workers.stopped (hpool htended.ownsPool)).trans hl.running, hl.tended, hl.listed,
      hl.nodup, hl.accepting⟩
  refine hl'.modify i fun g' hg' => ?_
  obtain rfl : g = g' := Option.some.inj (hg.symm.trans hg')
  have hwatched := htended.withSession hs.toHeeds fun hwatching => by
    rw [hs.watchers]
    exact htended.watched hwatching
  exact ⟨⟨howns.trans htended.ownsPool, hwatched.listed, hwatched.nobody, hwatched.watched,
    hwatched.ended, hwatched.shut⟩, hs.toHeeds⟩

theorem Orderly.leave (hl : l.Orderly) (now i : Nat) :
    (l.move now (.leave i)).Orderly ∧ Follows l.guests (l.move now (.leave i)).guests := by
  refine hl.modify i fun g hg => ?_
  have htended := hl.tended i g hg
  split
  next hvisited =>
    have hheeds := (Session.Heeds.refl g.session).unwatch
    refine ⟨htended.withSession hheeds fun hwatching => ?_, hheeds⟩
    -- The one who leaves is not the tending task.
    have hothers : 1 < g.session.closeSignal.watchers := by
      simpa [Guest.visited, hwatching] using hvisited
    show g.session.closeSignal.watchers - 1 ≠ 0
    omega
  · exact ⟨htended, .refl g.session⟩

/-- Every step keeps order, and every guest heeds its close. -/
theorem Orderly.move (hl : l.Orderly) (now : Nat) (m : Move ε) :
    (l.move now m).Orderly ∧ Follows l.guests (l.move now m).guests := by
  have hgetD := getD_keeps (fun l' => l'.Orderly ∧ Follows l.guests l'.guests) ⟨hl, .refl l.guests⟩
  cases m with
  | accept addresses => exact hgetD _ fun l' h => hl.accept? h
  | register => exact hgetD _ fun l' h => hl.register? h
  | employ => exact hgetD _ fun l' h => hl.employ? h
  | establish i o => exact hgetD _ fun l' h => hl.establish? h
  | beginLoop i => exact hgetD _ fun l' h => hl.beginLoop? h
  | watch i => exact hgetD _ fun l' h => hl.watch? h
  | deregister i => exact hgetD _ fun l' h => hl.deregister? h
  | deliver i => exact hgetD _ fun l' h => hl.deliver? h
  | deed i d =>
    refine hl.modifySession i (fun s => (s.passes_perform now d).toHeeds) fun s hsome => ?_
    rw [(s.passes_perform now d).watchers]
    exact hsome
  | visit i =>
    exact hl.modifySession i (fun s => (Session.Heeds.refl s).watch) fun s _ => Nat.succ_ne_zero _
  | leave i => exact hl.leave now i

theorem Orderly.run (hl : l.Orderly) (moves : List (Nat × Move ε)) : (l.run moves).Orderly := by
  induction moves generalizing l with
  | nil => exact hl
  | cons m moves ih => exact ih (hl.move m.1 m.2).1

end Listener

end SessionEngine
