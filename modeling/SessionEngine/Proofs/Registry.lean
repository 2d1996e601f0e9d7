import SessionEngine.Proofs.Listener.Order
import SessionEngine.Tls.Engine.Channel

/-! Which guests a listener counts. A guest is missed when it closes while nobody watches; `Recorded` says
what this has to do with its signal. When nobody has a step left to take, the register holds the guests that
are open and those that were missed (`register_at_rest`), and one that fails to open while nobody watches is
missed (`Orderly.misses_establish`). -/

namespace SessionEngine

variable {ε : Type}

namespace Listener

/-! ### The history of a guest -/

/-- From `l` to `l'` the guest in place `i` closes, and nobody watches for it. -/
def Misses (l l' : Listener μ ε) (i : Nat) : Prop :=
  ∃ g g', l.guests[i]? = some g ∧ l'.guests[i]? = some g' ∧ g.isOpen = true ∧ g'.isOpen = false ∧
    g.session.closeSignal.watchers = 0

variable {l l' : Listener μ ε} {i : Nat} {g : Guest μ ε}

/-- A guest that is open was not missed, and the signal of one that is closed was raised unless it was. -/
structure Recorded (guests : List (Guest μ ε)) (missed : Nat → Prop) : Prop where
  waiting : ∀ i g, guests[i]? = some g → g.isOpen = true → ¬ missed i
  closed : ∀ i g, guests[i]? = some g → g.isOpen = false →
    (g.session.closeSignal.raised = true ↔ ¬ missed i)
  nobody : ∀ i, guests[i]? = none → ¬ missed i

theorem misses_iff {g' : Guest μ ε} (hg : l.guests[i]? = some g) (hg' : l'.guests[i]? = some g') :
    l.Misses l' i ↔ g.isOpen = true ∧ g'.isOpen = false ∧ g.session.closeSignal.watchers = 0 := by
  constructor
  · rintro ⟨h, h', hh, hh', hmissed⟩
    rw [hg] at hh
    rw [hg'] at hh'
    cases hh
    cases hh'
    exact hmissed
  · exact fun hmissed => ⟨g, g', hg, hg', hmissed⟩

theorem not_misses_of_none (hnone : l.guests[i]? = none) : ¬ l.Misses l' i := by
  rintro ⟨g, g', hg, -⟩
  rw [hnone] at hg
  cases hg

/-- A step adds the guest that it misses to those that were missed before. -/
theorem Recorded.step {missed : Nat → Prop} (hr : Recorded l.guests missed) (hl : l.Orderly)
    (h : Follows l.guests l'.guests) : Recorded l'.guests fun i => missed i ∨ l.Misses l' i := by
  have hnobody : ∀ {i : Nat}, l.guests[i]? = none → ¬ (missed i ∨ l.Misses l' i) := by
    rintro i hnone (hmissed | hmisses)
    · exact hr.nobody i hnone hmissed
    · exact not_misses_of_none hnone hmisses
  refine ⟨fun i g' hg' hopen => ?_, fun i g' hg' hclosed => ?_, fun i hnone => hnobody (h.eq_none hnone)⟩
  · rcases h.stayed_or_came hg' with ⟨g, hg, hheeds⟩ | ⟨hnone, -⟩
    · rw [misses_iff hg hg', hopen]
      simpa using hr.waiting i g hg (hheeds.shut hopen)
    · exact hnobody hnone
  · rcases h.stayed_or_came hg' with ⟨g, hg, hheeds⟩ | ⟨-, hopen⟩
    · have hshut : g'.session.stage.isOpen = false := hclosed
      rw [misses_iff hg hg', hheeds.raised, hshut, hclosed]
      cases hopen : g.isOpen with
      | true =>
        -- It closes in this step, so it was not missed before, and its signal was not raised.
        have hstage : g.session.stage.isOpen = true := hopen
        have hquiet : ¬ g.session.closeSignal.raised = true := by
          intro hraised
          rw [(hl.tended i g hg).shut hraised] at hopen
          cases hopen
        simp [hr.waiting i g hg hopen, hquiet, hstage]
      | false =>
        have hstage : g.session.stage.isOpen = false := hopen
        simp [hr.closed i g hg hopen, hstage]
    · rw [hopen] at hclosed
      cases hclosed

theorem recorded_nil : Recorded ([] : List (Guest μ ε)) fun _ => False := by
  refine ⟨fun i g hg => ?_, fun i g hg => ?_, fun i _ hmissed => hmissed⟩
  · cases hg
  · cases hg

theorem Recorded.unheard_iff {missed : Nat → Prop} (hr : Recorded l.guests missed)
    (hg : l.guests[i]? = some g) : g.unheard = true ↔ missed i := by
  cases hopen : g.isOpen with
  | true => simp [Guest.unheard, hopen, hr.waiting i g hg hopen]
  | false =>
    have hclosed := hr.closed i g hg hopen
    cases hraised : g.session.closeSignal.raised with
    | true => simp_all [Guest.unheard]
    | false => simp_all [Guest.unheard]

theorem Orderly.not_misses_of_watching (hl : l.Orderly) (hg : l.guests[i]? = some g)
    (hwatching : g.tending = .watching) : ¬ l.Misses l' i := by
  rintro ⟨g', g'', hg', -, -, -, hnobody⟩
  obtain rfl : g = g' := Option.some.inj (hg.symm.trans hg')
  exact (hl.tended i g hg).watched hwatching hnobody

theorem Orderly.filter_running? (hl : l.Orderly) (hg : l.guests[i]? = some g) {p : Guest μ ε → Bool}
    (hp : p g = true) : (l.running? i).filter p = some g := by
  simp [running?, hl.running, hg, hp]

variable [Tls.RecordEngine ε]

/-- The guest in place `i` has closed along the moves, and nobody watched for it then. -/
def Missed (i : Nat) : Listener μ ε → List (Nat × Move ε) → Prop
  | _, [] => False
  | l, m :: moves => l.Misses (l.move m.1 m.2) i ∨ (l.move m.1 m.2).Missed i moves

/-- What a run misses is told by the signals at its end. -/
theorem Recorded.run {missed : Nat → Prop} (hr : Recorded l.guests missed) (hl : l.Orderly)
    (moves : List (Nat × Move ε)) :
    Recorded (l.run moves).guests fun i => missed i ∨ l.Missed i moves := by
  induction moves generalizing l missed with
  | nil =>
    have hsame : (fun i => missed i ∨ l.Missed i []) = missed := by simp [Missed]
    rw [hsame]
    exact hr
  | cons m moves ih =>
    obtain ⟨hnext, hfollows⟩ := hl.move m.1 m.2
    have hrest := ih (hr.step hl hfollows) hnext
    have hsame : (fun i => (missed i ∨ l.Misses (l.move m.1 m.2) i) ∨ (l.move m.1 m.2).Missed i moves) =
        fun i => missed i ∨ l.Missed i (m :: moves) := by
      simp only [Missed, or_assoc]
    rw [hsame] at hrest
    exact hrest

/-- An opening that fails while nobody watches misses its guest. -/
theorem Orderly.misses_establish (hl : l.Orderly) (hg : l.guests[i]? = some g)
    (hqueued : g.tending = .queued) (hopen : g.isOpen = true)
    (hnobody : g.session.closeSignal.watchers = 0) {now : Nat} {o : Opening ε} {e : Error}
    (hfails : ((g.opening o).run now g.session l.traffic).1 = some (.error e)) :
    l.Misses (l.move now (.establish i o)) i := by
  obtain ⟨l', hstep⟩ : ∃ l', l.open? i now o = some l' := by
    obtain ⟨s, hrun⟩ : ∃ s, (g.opening o).run now g.session l.traffic = (some (.error e), s) :=
      ⟨_, Prod.ext hfails rfl⟩
    rw [Guest.opening, Guest.session] at hrun
    rw [open?, hl.filter_running? hg (by rw [hqueued]; rfl)]
    simp only [hrun]
    exact ⟨_, rfl⟩
  have hmove : l.move now (.establish i o) = l' := by rw [Listener.move, hstep, Option.getD_some]
  rw [hmove]
  obtain ⟨g', result, s, traffic, hg', -, hrun, rfl⟩ := open?_eq_some hstep
  obtain rfl : g = g' := Option.some.inj (hg.symm.trans hg')
  have hclosed := ((g.opening o).passes_run now g.session l.traffic).2 e hfails
  rw [hrun] at hclosed
  refine ⟨g, { g.withSession s with tending := .opened, loops := if result.toBool then 2 else 0 }, hg, ?_,
    hopen, hclosed, hnobody⟩
  simp only [Listener.modify, List.getElem?_modify, hg]
  rfl

theorem missed_of_misses {now : Nat} {m : Move ε} {before after : List (Nat × Move ε)}
    (h : (l.run before).Misses ((l.run before).move now m) i) :
    l.Missed i (before ++ (now, m) :: after) := by
  induction before generalizing l with
  | nil => exact .inl h
  | cons first before ih => exact .inr (ih h)

/-! ### The register -/

/-- Neither the accept loop nor a task that tends a guest has a step to take, unless a connection comes or
a session closes. -/
structure AtRest (l : Listener μ ε) : Prop where
  register : l.register? = none
  employ : l.employ? = none
  establish : ∀ i now o, l.open? i now o = none
  watch : ∀ i, l.watch? i = none
  deregister : ∀ i, l.deregister? i = none

theorem atRest_of_guests (haccepting : l.accepting = .waiting)
    (hguests : ∀ g ∈ l.guests, g.tending = .watching ∧ g.session.closeSignal.raised = false ∨
      g.tending = .over) : l.AtRest := by
  have hfilter : ∀ i (p : Guest μ ε → Bool), (∀ g ∈ l.guests, p g = false) →
      (l.running? i).filter p = none := by
    intro i p hp
    cases hfound : (l.running? i).filter p with
    | none => rfl
    | some g =>
      obtain ⟨hg, hpg⟩ := running?_filter hfound
      rw [hp g (List.mem_of_getElem? hg)] at hpg
      cases hpg
  refine ⟨by rw [register?, haccepting], by rw [employ?, haccepting], fun i now o => ?_, fun i => ?_,
    fun i => ?_⟩
  · rw [open?, hfilter i _ fun g hg => ?_]
    rcases hguests g hg with ⟨h, -⟩ | h <;> rw [h] <;> rfl
  · rw [watch?, hfilter i _ fun g hg => ?_]
    rcases hguests g hg with ⟨h, -⟩ | h <;> rw [h] <;> rfl
  · rw [deregister?, hfilter i _ fun g hg => ?_]
    rcases hguests g hg with ⟨-, h⟩ | h
    · rw [show g.delivery.session.closeSignal.raised = false from h, Bool.and_false]
    · rw [h]
      rfl

/-- At rest every task that tends a guest watches, or has seen the guest close. -/
theorem Orderly.tending_cases (hl : l.Orderly) (hrest : l.AtRest) (hg : l.guests[i]? = some g) :
    g.tending = .watching ∧ g.session.closeSignal.raised = false ∨ g.tending = .over := by
  have htended := hl.tended i g hg
  match htending : g.tending with
  | .nobody =>
    rcases htended.nobody.mp htending with haccepting | haccepting
    · have hstep := hrest.register
      rw [Listener.register?, haccepting] at hstep
      cases hstep
    · have hstep := hrest.employ
      rw [Listener.employ?, haccepting] at hstep
      cases hstep
  | .queued =>
    have hstep := hrest.establish i 0 { connection := .ok g.addresses }
    obtain ⟨result, s, traffic, hrun⟩ := Opening.exists_result_run
      (o := { connection := .ok g.addresses }) (fun h => nomatch h.2) 0 g.delivery.session l.traffic
    rw [open?, hl.filter_running? hg (by rw [htending]; rfl)] at hstep
    simp only [hrun] at hstep
    cases hstep
  | .opened =>
    have hstep := hrest.watch i
    rw [Listener.watch?, hl.filter_running? hg (by rw [htending]; rfl)] at hstep
    cases hstep
  | .watching =>
    refine .inl ⟨rfl, ?_⟩
    rw [Bool.eq_false_iff]
    intro hraised
    have hsees : (g.tending == .watching && g.delivery.session.closeSignal.raised) = true := by
      rw [htending, show g.delivery.session.closeSignal.raised = true from hraised]
      rfl
    have hstep := hrest.deregister i
    rw [Listener.deregister?, hl.filter_running? hg hsees] at hstep
    cases hstep
  | .over => exact .inr rfl

theorem Orderly.mem_register_iff (hl : l.Orderly) (hrest : l.AtRest) (hg : l.guests[i]? = some g) :
    i ∈ l.register ↔ g.session.closeSignal.raised = false := by
  have htended := hl.tended i g hg
  have hmade : l.accepting ≠ .made i := by
    intro hmade
    have hstep := hrest.register
    rw [Listener.register?, hmade] at hstep
    cases hstep
  rw [htended.listed]
  rcases hl.tending_cases hrest hg with ⟨hwatching, hquiet⟩ | hover
  · simp [hmade, hwatching, hquiet]
  · simp [hover, htended.ended hover]

theorem Orderly.mem_register_iff_missed (hl : l.Orderly) (hrest : l.AtRest) {missed : Nat → Prop}
    (hr : Recorded l.guests missed) :
    i ∈ l.register ↔ ∃ g, l.guests[i]? = some g ∧ (g.isOpen = true ∨ missed i) := by
  constructor
  · intro hi
    have hg := List.getElem?_eq_getElem (hl.listed i hi)
    refine ⟨_, hg, ?_⟩
    have hquiet := (hl.mem_register_iff hrest hg).mp hi
    rw [← hr.unheard_iff hg]
    simp [Guest.unheard, hquiet]
  · rintro ⟨g, hg, hkept⟩
    rw [hl.mem_register_iff hrest hg, Bool.eq_false_iff]
    intro hraised
    have hclosed := (hl.tended i g hg).shut hraised
    rw [← hr.unheard_iff hg] at hkept
    simp [Guest.unheard, hclosed, hraised] at hkept

/-- At rest the register counts the guests that are open and those that closed unheard. -/
theorem Orderly.count_eq (hl : l.Orderly) (hrest : l.AtRest) :
    l.count = l.guests.countP Guest.isOpen + l.guests.countP Guest.unheard := by
  -- The register is not in the order of the places, but it holds the same ones, and each once.
  have hperm : l.register.Perm (l.guests.findIdxs fun g => !g.session.closeSignal.raised) := by
    rw [List.perm_ext_iff_of_nodup hl.nodup List.nodup_findIdxs]
    intro i
    rw [List.mem_findIdxs_iff_exists_getElem_pos]
    constructor
    · intro hi
      have hlt := hl.listed i hi
      refine ⟨hlt, ?_⟩
      have hraised := (hl.mem_register_iff hrest (List.getElem?_eq_getElem hlt)).mp hi
      simp [hraised]
    · rintro ⟨hlt, hquiet⟩
      rw [hl.mem_register_iff hrest (List.getElem?_eq_getElem hlt)]
      simpa using hquiet
  rw [count, hperm.length_eq, List.length_findIdxs, List.countP_eq_countP_filter_add _ _ Guest.isOpen,
    List.countP_filter, List.countP_filter]
  congr 1
  · refine List.countP_congr fun g hg => ?_
    obtain ⟨i, hi⟩ := List.mem_iff_getElem?.mp hg
    cases hraised : g.session.closeSignal.raised with
    | false => simp
    | true => simp [(hl.tended i g hi).shut hraised]
  · refine List.countP_congr fun g _ => ?_
    simp [Guest.unheard, and_comm]

end Listener

variable [Tls.RecordEngine ε]

open Listener in
/-- Whom a running listener counts when neither its accept loop nor a tending task has a step left to take.
On the register are the guests that are open, and those that closed while nobody watched, which stay there
for good; the count is their number. A guest whose task has begun to watch is not missed when it closes, but
one whose opening fails is, unless somebody else watches. -/
theorem register_at_rest (settings : Settings) (splitter : Splitter) (handler : Option (Handler μ ε))
    (memory : μ) (address : String) (firstId : Nat)
    (moves : List (Nat × Listener.Move ε))
    (hrest : ((new settings splitter handler memory address firstId).start.2.run moves).AtRest) :
    let l := (new settings splitter handler memory address firstId).start.2
    (∀ i, i ∈ (l.run moves).register ↔
      ∃ g, (l.run moves).guests[i]? = some g ∧ (g.isOpen = true ∨ l.Missed i moves)) ∧
    (∀ i g, (l.run moves).guests[i]? = some g → (g.unheard = true ↔ l.Missed i moves)) ∧
    (l.run moves).count =
      (l.run moves).guests.countP Guest.isOpen + (l.run moves).guests.countP Guest.unheard ∧
    (∀ before now m after i g, moves = before ++ (now, m) :: after → (l.run before).guests[i]? = some g →
      (g.tending = .watching → ¬ (l.run before).Misses ((l.run before).move now m) i) ∧
      ∀ o e, m = .establish i o → g.tending = .queued → g.isOpen = true →
        g.session.closeSignal.watchers = 0 →
        ((g.opening o).run now g.session (l.run before).traffic).1 = some (.error e) →
        i ∈ (l.run moves).register) := by
  intro l
  have hstart : l.Orderly := orderly_start ..
  have hl : (l.run moves).Orderly := hstart.run moves
  have hrecorded : Recorded (l.run moves).guests fun i => l.Missed i moves := by
    have hnone : Recorded l.guests fun _ => False := recorded_nil
    have hall := hnone.run hstart moves
    simp only [false_or] at hall
    exact hall
  refine ⟨fun i => hl.mem_register_iff_missed hrest hrecorded, fun i g hg => hrecorded.unheard_iff hg,
    hl.count_eq hrest, fun before now m after i g hsplit hg => ⟨fun hwatching => ?_, ?_⟩⟩
  · exact (hstart.run before).not_misses_of_watching hg hwatching
  · rintro o e rfl hqueued hopen hnobody hfails
    have hmisses := (hstart.run before).misses_establish hg hqueued hopen hnobody hfails
    have hmissed : l.Missed i moves := hsplit ▸ missed_of_misses hmisses
    rw [hl.mem_register_iff_missed hrest hrecorded]
    cases hlast : (l.run moves).guests[i]? with
    | none => exact absurd hmissed (hrecorded.nobody i hlast)
    | some g' => exact ⟨g', rfl, .inr hmissed⟩

open Listener in
/-- One guest closes after its task has begun to watch, and one is open. -/
theorem register_at_rest_watched :
    let l : Listener Unit Empty :=
      (new (Settings.server "localhost" 6380) .line none () "127.0.0.1:6380" 0).start.2
    let moves : List (Nat × Listener.Move Empty) := [.accept (none, none), .register, .employ,
      .establish 0 { connection := .ok (none, none) }, .beginLoop 0, .watch 0, .beginLoop 0,
      .accept (none, none), .register, .employ, .deed 0 .close, .deregister 0,
      .establish 1 { connection := .ok (none, none) }, .watch 1].map (0, ·)
    (l.run moves).AtRest ∧ (l.run moves).register = [1] ∧
      (l.run moves).guests.map Guest.isOpen = [false, true] ∧ ¬ l.Missed 0 moves ∧
      (l.run moves).count = 1 := by
  intro l moves
  have hrest : (l.run moves).AtRest :=
    atRest_of_guests (by decide +kernel) (by decide +kernel)
  have hopen : (l.run moves).guests.map Guest.isOpen = [false, true] := by decide +kernel
  obtain ⟨-, hunheard, hcount, -⟩ := register_at_rest (Settings.server "localhost" 6380) .line none ()
    "127.0.0.1:6380" 0 moves hrest
  obtain ⟨g, hg⟩ : ∃ g, (l.run moves).guests[0]? = some g :=
    Option.isSome_iff_exists.mp (by decide +kernel)
  have hheard : ∀ g ∈ (l.run moves).guests, g.unheard = false := by decide +kernel
  refine ⟨hrest, by decide +kernel, hopen, ?_, ?_⟩
  · rw [← hunheard 0 g hg, hheard g (List.mem_of_getElem? hg)]
    decide
  · rw [hcount]
    decide +kernel

open Listener in
/-- A guest of a listener that has no identity to show fails to open, and nobody hears of its close. -/
theorem register_leaks :
    let policy : Tls.Policy :=
      { protocol := .any, credential := none, anchors := [], clientAuth := false }
    let layer : Except Error (Tls.Channel Tls.Engine) := (Tls.Channel.server policy 0 0).mapError .tlsConfig
    let l : Listener Unit Tls.Engine :=
      (new (Settings.server "localhost" 6380) .line none () "127.0.0.1:6380" 0).start.2
    let moves : List (Nat × Listener.Move Tls.Engine) := [.accept (none, none), .register, .employ,
      .establish 0 { connection := .ok (none, none), securing := .attempt { arrivals := [] } 5000 layer },
      .watch 0].map (0, ·)
    (l.run moves).AtRest ∧ (l.run moves).register = [0] ∧ (l.run moves).count = 1 ∧
      (l.run moves).guests.map Guest.isOpen = [false] := by
  intro policy layer l moves
  have hrest : (l.run moves).AtRest :=
    atRest_of_guests (by decide +kernel) (by decide +kernel)
  exact ⟨hrest, by decide +kernel, by decide +kernel, by decide +kernel⟩

end SessionEngine
