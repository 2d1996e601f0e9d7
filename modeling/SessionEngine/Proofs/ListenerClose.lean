import SessionEngine.Proofs.Listener.Turns

/-! Closing a listener while its accept loop and its guests go on. The close takes the guests that are on
the register at one moment and closes them, and it clears the register at a later one. Who is `Late` for the
first moment may stay open, and who is late for the second may stay on the register; everybody else has
closed, with its disconnect queued, before the pool is stopped (`listener_close`). A connection that the
accept loop takes while the close goes on is late for both (`listener_close_overtaken`). -/

namespace SessionEngine

variable {ε : Type}

namespace Listener

/-- The guest in place `i` has not come, or the accept loop has yet to put it on the register. -/
def Late (l : Listener μ ε) (i : Nat) : Prop := l.guests.length ≤ i ∨ l.accepting = .made i

variable {l l' snap cleared stopped : Listener μ ε} {i : Nat} {g : Guest μ ε} {now : Nat} {late : Nat → Prop}
  {turns : List (Nat × Turn ε)}

/-- The close has taken the guests, and all that were not late have parted or are still to be closed. -/
structure Chased (late : Nat → Prop) (l : Listener μ ε) : Prop where
  taken : 4 ≤ l.closing.rank
  comes : ∀ i, l.guests.length ≤ i → late i
  caught : ∀ i g, l.guests[i]? = some g →
    g.session.Parted ∨ late i ∨ ∃ left all, l.closing = .closing left all ∧ i ∈ left

/-- Whom the close takes is on the register, and who has been there and is not has closed. -/
theorem Orderly.chased (hl : l.Orderly) (hsteady : l.Steady) :
    Chased l.Late { l with closing := .closing l.register l.register } := by
  refine ⟨Nat.le_refl _, fun i hi => .inl hi, fun i g hg => ?_⟩
  have htended := hl.tended i g hg
  by_cases hlisted : i ∈ l.register
  · exact .inr (.inr ⟨l.register, l.register, rfl, hlisted⟩)
  by_cases hmade : l.accepting = .made i
  · exact .inr (.inl (.inr hmade))
  have hover : g.tending = .over := by
    by_contra hnot
    exact hlisted (htended.listed.mpr ⟨hmade, hnot⟩)
  have hshut := htended.shut (htended.ended hover)
  exact .inl ⟨hshut, (hsteady.proper g (List.mem_of_getElem? hg)).signed hshut⟩

/-- Nobody is on the register, or comes to it, who was not late. -/
structure Behind (late : Nat → Prop) (l : Listener μ ε) : Prop where
  comes : ∀ i, l.guests.length ≤ i → late i
  made : ∀ i, l.accepting = .made i → late i
  listed : ∀ i ∈ l.register, late i

theorem Behind.rests (h : Behind late l) (hrests : Rests l l') : Behind late l' := by
  refine ⟨fun i hi => h.comes i ?_, fun i hi => h.made i ?_, fun i hi => h.listed i (hrests.register hi)⟩
  · rwa [← hrests.length]
  · rwa [← hrests.accepting]

theorem Behind.shift (h : Behind late l) (hshift : Shift l l') : Behind late l' := by
  cases hshift with
  | rests hrests => exact h.rests hrests
  | accepted _ _ hrests hlength =>
    have hcomes : ∀ i, l'.guests.length ≤ i → late i := fun i hi => h.comes i (by omega)
    have hcame : Behind late { l with accepting := .made l.guests.length, guests := l'.guests } :=
      ⟨hcomes, fun i hi => h.comes i (Nat.le_of_eq (AcceptPhase.made.inj hi)), h.listed⟩
    exact hcame.rests hrests
  | registered i hmade hrests =>
    have hlisted : ∀ j ∈ l.register ++ [i], late j := by
      intro j hj
      rcases List.mem_append.mp hj with hj | hj
      · exact h.listed j hj
      · rw [List.mem_singleton.mp hj]
        exact h.made i hmade
    have hput : Behind late { l with accepting := .registered i, register := l.register ++ [i] } :=
      ⟨h.comes, nofun, hlisted⟩
    exact hput.rests hrests
  | employed i _ hrests =>
    have hwaits : Behind late { l with accepting := .waiting } := ⟨h.comes, nofun, h.listed⟩
    exact hwaits.rests hrests
  | ended _ hrests =>
    have hended : Behind late { l with accepting := .ended } := ⟨h.comes, nofun, h.listed⟩
    exact hended.rests hrests

theorem steady_start (settings : Settings) (splitter : Splitter) (handler : Option (Handler μ ε))
    (memory : μ) (address : String) (firstId : Nat) :
    (new settings splitter handler memory address firstId).start.2.Steady :=
  ⟨fun _ hg => absurd hg List.not_mem_nil, ⟨nofun, nofun⟩⟩

variable [Tls.RecordEngine ε]

/-- The moments of a close that comes to its end in the course of the turns: it takes the guests at `snap`,
clears the register at `cleared`, and stops the pool at `stopped`. -/
structure Moments (l : Listener μ ε) (turns : List (Nat × Turn ε)) (snap cleared stopped : Listener μ ε) :
    Prop where
  split : ∃ (before mid last after : List (Nat × Turn ε)) (t₁ f₁ t₂ f₂ t₃ f₃ : Nat),
    turns = before ++ (t₁, .close f₁) :: (mid ++ (t₂, .close f₂) :: (last ++ (t₃, .close f₃) :: after)) ∧
      l.play before = snap ∧ (snap.closeStep t₁ f₁).play mid = cleared ∧
      (cleared.closeStep t₂ f₂).play last = stopped
  unbound : snap.closing = .unbound
  awaited : cleared.closing = .awaiting []
  done : stopped.closing = .cleared

/-! ### Before the guests are taken -/

/-- Until the close takes the guests, it leaves the register and the tasks in order. -/
theorem Orderly.turn (hl : l.Orderly) (now : Nat) (t : Turn ε)
    (hbefore : (l.turn now t).closing.rank ≤ 3) : (l.turn now t).Orderly := by
  cases t with
  | move m => exact (hl.move now m).1
  | endAccepting =>
    show (l.endAccepting?.getD l).Orderly
    unfold endAccepting?
    split
    next h =>
      refine ⟨hl.running, fun i g hg => ?_, hl.listed, hl.nodup, fun i hi => ?_⟩
      · exact (hl.tended i g hg).congr Iff.rfl (by simp [h.1]) (by simp [h.1])
      · rcases hi with hi | hi <;> cases hi
    · exact hl
  | close fuel =>
    have hsame : ∀ closing stop bound, Orderly { l with closing, stop, bound } := fun _ _ _ =>
      ⟨hl.running, hl.tended, hl.listed, hl.nodup, hl.accepting⟩
    revert hbefore
    show (l.closeStep now fuel).closing.rank ≤ 3 → (l.closeStep now fuel).Orderly
    unfold closeStep
    split <;> intro hbefore
    case h_1 | h_2 | h_3 => exact hsame ..
    -- With every other step the guests have been taken.
    all_goals simp_all [ClosePhase.rank]

theorem Orderly.play (hl : l.Orderly) (hsteady : l.Steady) (hbefore : (l.play turns).closing.rank ≤ 3) :
    (l.play turns).Orderly := by
  induction turns generalizing l with
  | nil => exact hl
  | cons t turns ih =>
    have hnext := (turn_keeps hsteady t.1 t.2).2.2
    exact ih (hl.turn t.1 t.2 (Nat.le_trans (hnext.rank_le_play turns) hbefore)) hnext hbefore

/-! ### Once the guests are taken -/

theorem Chased.turn (h : Chased late l) (hl : l.Steady) (now : Nat) (t : Turn ε) :
    Chased late (l.turn now t) := by
  obtain ⟨-, hdeparts, -⟩ := turn_keeps hl now t
  refine ⟨Nat.le_trans h.taken (rank_le_turn hl now t),
    fun i hi => h.comes i (Nat.le_trans hdeparts.length_le hi), fun i g' hg' => ?_⟩
  cases hold : l.guests[i]? with
  | none => exact .inr (.inl (h.comes i (List.getElem?_eq_none_iff.mp hold)))
  | some g =>
    obtain ⟨g'', hg'', hparts, -⟩ := hdeparts.stays i g hold
    obtain rfl : g'' = g' := Option.some.inj (hg''.symm.trans hg')
    rcases h.caught i g hold with hparted | hlate | ⟨left, all, hphase, hi⟩
    · exact .inl (hparts.parted hparted)
    · exact .inr (.inl hlate)
    · rcases rank_turn hl now t with hsame | ⟨fuel, rfl, -⟩
      · exact .inr (.inr ⟨left, all, hsame.trans hphase, hi⟩)
      obtain _ | ⟨j, left⟩ := left
      · cases hi
      have hstep : l.turn now (.close fuel) = { l.closeGuest j with closing := .closing left all } := by
        simp only [Listener.turn, closeStep, hphase]
      rcases List.mem_cons.mp hi with rfl | hi
      · -- This step closes the guest.
        rw [hstep] at hg'
        obtain ⟨g₀, hg₀, rfl⟩ := getElem?_modify (l := l) (i := i) (j := i) hg'
        rw [if_pos rfl]
        exact .inl (hl.proper g₀ (List.mem_of_getElem? hg₀)).signed.parted_close
      · exact .inr (.inr ⟨left, all, by rw [hstep], hi⟩)

/-- Once the close waits for the last events, whoever was not late when it took the guests has parted. -/
theorem Orderly.parted_play (hl : l.Orderly) (hsteady : l.Steady) (hphase : l.closing = .unbound)
    {fuel : Nat} (hafter : 4 < ((l.closeStep now fuel).play turns).closing.rank)
    (hg : ((l.closeStep now fuel).play turns).guests[i]? = some g) :
    g.session.Parted ∨ l.Late i ∧ g.isOpen = true := by
  have hnext : (l.closeStep now fuel).Steady := (turn_keeps hsteady now (.close fuel)).2.2
  have htaken : Chased l.Late (l.closeStep now fuel) := by
    simp only [closeStep, hphase]
    exact hl.chased hsteady
  have hchased : Chased l.Late ((l.closeStep now fuel).play turns) :=
    hnext.play_keeps htaken (fun _ now t hsteady h => h.turn hsteady now t) turns
  rcases hchased.caught i g hg with hparted | hlate | ⟨left, all, hclosing, -⟩
  · exact .inl hparted
  · cases hopen : g.isOpen with
    | true => exact .inr ⟨hlate, rfl⟩
    | false =>
      have hproper := (hnext.play turns).proper g (List.mem_of_getElem? hg)
      exact .inl ⟨hopen, hproper.signed hopen⟩
  · rw [hclosing] at hafter
    exact absurd hafter (Nat.lt_irrefl 4)

/-! ### Once the register is cleared -/

theorem Steady.late_of_register (hsteady : l.Steady) (hphase : l.closing = .awaiting []) {fuel : Nat}
    (turns : List (Nat × Turn ε)) : ∀ i ∈ ((l.closeStep now fuel).play turns).register, l.Late i := by
  have hnext : (l.closeStep now fuel).Steady := (turn_keeps hsteady now (.close fuel)).2.2
  have hcleared : Behind l.Late (l.closeStep now fuel) := by
    simp only [closeStep, hphase]
    exact ⟨fun i hi => .inl hi, fun i hi => .inr hi, nofun⟩
  refine (hnext.play_keeps hcleared (fun l' now t hsteady h => ?_) turns).listed
  have hsame : Behind l.Late
      { l' with closing := (l'.turn now t).closing, pool := (l'.turn now t).pool } :=
    ⟨h.comes, h.made, h.listed⟩
  exact hsame.shift (turn_keeps hsteady now t).1

/-! ### Once nobody comes any more -/

/-- When the accept loop has ended, nobody comes to the guests or to the register. -/
theorem Steady.play_of_ended (hl : l.Steady) (hended : l.accepting = .ended)
    (turns : List (Nat × Turn ε)) : (l.play turns).accepting = .ended ∧
      (l.play turns).guests.length = l.guests.length ∧ (l.play turns).register ⊆ l.register := by
  refine hl.play_keeps (P := fun l' => l'.accepting = .ended ∧ l'.guests.length = l.guests.length ∧
    l'.register ⊆ l.register) ⟨hended, rfl, List.Subset.refl _⟩ ?_ turns
  rintro l' now t hsteady ⟨hended, hlength, hregister⟩
  rcases (turn_keeps hsteady now t).1 with h | ⟨-, hother, -, -⟩ | ⟨i, hother, -⟩ | ⟨i, hother, -⟩ |
    ⟨hother, -⟩
  · exact ⟨h.accepting.trans hended, h.length.trans hlength,
      List.Subset.trans h.register hregister⟩
  all_goals exact absurd (hended.symm.trans hother) nofun

theorem Steady.play_of_over (hl : l.Steady) (hover : l.closing = .over) (turns : List (Nat × Turn ε)) :
    (l.play turns).guests.length = l.guests.length := by
  refine (hl.play_keeps (P := fun l' => l'.closing = .over ∧ l'.guests.length = l.guests.length)
    ⟨hover, rfl⟩ ?_ turns).2
  rintro l' now t hsteady ⟨hover, hlength⟩
  obtain ⟨hshift, -, hnext⟩ := turn_keeps hsteady now t
  have hstill : (l'.turn now t).closing = .over := by
    have hrank := rank_le_turn hsteady now t
    rw [hover] at hrank
    revert hrank
    cases (l'.turn now t).closing <;> simp [ClosePhase.rank]
  refine ⟨hstill, ?_⟩
  rcases hshift with h | ⟨hrunning, -, -, -⟩ | ⟨i, -, h⟩ | ⟨i, -, h⟩ | ⟨-, h⟩
  · exact h.length.trans hlength
  · -- The pool is stopped, so the accept loop has taken nobody.
    exact absurd (hnext.pool.mpr hstill) (by rw [hrunning]; nofun)
  all_goals exact h.length.trans hlength

/-! ### The moments of a close -/

theorem closeStep_unbound (h : l.closing = .unbound) (now fuel : Nat) :
    l.closeStep now fuel = { l with closing := .closing l.register l.register } := by
  simp only [closeStep, h]

theorem closeStep_awaited (h : l.closing = .awaiting []) (now fuel : Nat) :
    l.closeStep now fuel = { l with closing := .cleared, register := [] } := by
  simp only [closeStep, h]

theorem closeStep_cleared (h : l.closing = .cleared) (now fuel : Nat) :
    l.closeStep now fuel = { l with closing := .over, pool := l.pool.shutdown } := by
  simp only [closeStep, h]

theorem Steady.closeStep (hl : l.Steady) (now fuel : Nat) : (l.closeStep now fuel).Steady :=
  (turn_keeps hl now (.close fuel)).2.2

/-- On its way the close goes on from each phase that one step leaves. -/
theorem Steady.exists_leaving (hl : l.Steady) (phase : ClosePhase)
    (hbefore : l.closing.rank ≤ phase.rank) (hafter : phase.rank < (l.play turns).closing.rank)
    (honly : ∀ (l' : Listener μ ε) (now fuel : Nat), l'.closing.rank = phase.rank →
      (l'.closeStep now fuel).closing.rank = phase.rank + 1 → l'.closing = phase) :
    ∃ before now fuel after, turns = before ++ (now, .close fuel) :: after ∧
      (l.play before).closing = phase ∧ l.play turns = ((l.play before).closeStep now fuel).play after := by
  obtain ⟨before, now, fuel, after, rfl, hrank, hnext⟩ := hl.exists_step hbefore hafter
  exact ⟨before, now, fuel, after, rfl, honly _ now fuel hrank hnext, play_append_cons ..⟩

theorem Steady.exists_moments (hl : l.Steady) (hbefore : l.closing.rank ≤ 3)
    (hover : (l.play turns).closing = .over) :
    ∃ snap cleared stopped, l.Moments turns snap cleared stopped := by
  have hrank : (l.play turns).closing.rank = 7 := congrArg ClosePhase.rank hover
  -- Each moment is looked for in the turns behind the one before it.
  obtain ⟨before, t₁, f₁, rest, rfl, hunbound, hplay₁⟩ :=
    hl.exists_leaving .unbound hbefore (by rw [hrank]; decide) fun l' _ _ h _ => by
      revert h
      cases l'.closing <;> simp [ClosePhase.rank]
  have hnext₁ := (hl.play before).closeStep t₁ f₁
  rw [hplay₁] at hrank
  obtain ⟨mid, t₂, f₂, rest, rfl, hawaited, hplay₂⟩ :=
    hnext₁.exists_leaving (.awaiting []) (by rw [closeStep_unbound hunbound]; exact Nat.le_succ 4)
      (by rw [hrank]; decide) fun l' now fuel h hstep => by
        cases hphase : l'.closing with
        | awaiting left =>
          cases left with
          | nil => rfl
          | cons i left =>
            simp only [Listener.closeStep, hphase] at hstep
            cases hstep
        | _ =>
          rw [hphase] at h
          cases h
  have hnext₂ := (hnext₁.play mid).closeStep t₂ f₂
  have hrank₂ := congrArg (fun l' : Listener μ ε => l'.closing.rank) (closeStep_awaited hawaited t₂ f₂)
  rw [hplay₂] at hrank
  obtain ⟨last, t₃, f₃, after, rfl, hcleared, -⟩ :=
    hnext₂.exists_leaving .cleared (Nat.le_of_eq hrank₂) (by rw [hrank]; decide) fun l' _ _ h _ => by
        revert h
        cases l'.closing <;> simp [ClosePhase.rank]
  exact ⟨_, _, _, ⟨before, mid, last, after, t₁, f₁, t₂, f₂, t₃, f₃, rfl, rfl, rfl, rfl⟩, hunbound,
    hawaited, hcleared⟩

/-- Before the pool is stopped, whoever was not late when the close took the guests has parted. -/
theorem Moments.parted (h : l.Moments turns snap cleared stopped) (hl : l.Orderly) (hsteady : l.Steady)
    (hg : stopped.guests[i]? = some g) : g.session.Parted ∨ snap.Late i ∧ g.isOpen = true := by
  obtain ⟨before, mid, last, after, t₁, f₁, t₂, f₂, t₃, f₃, -, rfl, rfl, rfl⟩ := h.split
  have hbefore : (l.play before).closing.rank ≤ 3 := by
    rw [h.unbound]
    exact Nat.le_refl 3
  rw [← turn_close, ← play_append_cons] at hg
  refine (hl.play hsteady hbefore).parted_play (hsteady.play before) h.unbound ?_ hg
  rw [play_append_cons, turn_close, h.done]
  decide

theorem Moments.late_of_register (h : l.Moments turns snap cleared stopped) (hsteady : l.Steady) :
    ∀ i ∈ (l.play turns).register, cleared.Late i := by
  obtain ⟨before, mid, last, after, t₁, f₁, t₂, f₂, t₃, f₃, rfl, rfl, rfl, -⟩ := h.split
  rw [play_append_cons, play_append_cons]
  exact (((hsteady.play before).closeStep t₁ f₁).play mid).late_of_register h.awaited _

/-- The pool runs until it is stopped, and once it is, no guest comes. -/
theorem Moments.complete (h : l.Moments turns snap cleared stopped) (hsteady : l.Steady) :
    stopped.pool.stopped = false ∧ (l.play turns).guests.length = stopped.guests.length := by
  obtain ⟨before, mid, last, after, t₁, f₁, t₂, f₂, t₃, f₃, rfl, rfl, rfl, rfl⟩ := h.split
  have hstopped := (((hsteady.play before).closeStep t₁ f₁).play mid).closeStep t₂ f₂ |>.play last
  have hstep := closeStep_cleared h.done t₃ f₃
  constructor
  · rw [Bool.eq_false_iff, ne_eq, hstopped.pool, h.done]
    nofun
  · rw [play_append_cons, play_append_cons, play_append_cons]
    exact ((hstopped.closeStep t₃ f₃).play_of_over (by rw [hstep]) after).trans (by rw [hstep])

/-- When the accept loop had ended before the close took the guests, nobody is late. -/
theorem Moments.of_ended (h : l.Moments turns snap cleared stopped) (hsteady : l.Steady)
    (hended : snap.accepting = .ended) :
    stopped.guests.length = snap.guests.length ∧ (l.play turns).register = [] := by
  obtain ⟨before, mid, last, after, t₁, f₁, t₂, f₂, t₃, f₃, rfl, rfl, rfl, rfl⟩ := h.split
  have hsnap := (hsteady.play before).closeStep t₁ f₁
  have hstep₁ := closeStep_unbound h.unbound t₁ f₁
  have hstep₂ := closeStep_awaited h.awaited t₂ f₂
  obtain ⟨hended₂, hlength₂, -⟩ := hsnap.play_of_ended (by rw [hstep₁]; exact hended) mid
  have hcleared := (hsnap.play mid).closeStep t₂ f₂
  have hended₃ : (((l.play before).closeStep t₁ f₁).play mid |>.closeStep t₂ f₂).accepting = .ended := by
    rw [hstep₂]
    exact hended₂
  constructor
  · rw [(hcleared.play_of_ended hended₃ last).2.1, hstep₂]
    exact hlength₂.trans (by rw [hstep₁])
  · rw [play_append_cons, play_append_cons]
    have hregister := (hcleared.play_of_ended hended₃ (last ++ (t₃, .close f₃) :: after)).2.2
    rw [show (((l.play before).closeStep t₁ f₁).play mid |>.closeStep t₂ f₂).register = [] by rw [hstep₂]]
      at hregister
    exact List.subset_nil.mp hregister

end Listener

variable [Tls.RecordEngine ε]

open Listener in
/-- A close of a listener that is over, whatever the accept loop, the guests and their tasks did meanwhile.
It took the guests at `snap`, cleared the register at `cleared` and stopped the pool at `stopped`. All guests
there will be had come then, and had closed and queued their disconnects, but for those who were late when the
guests were taken; such a one may be open. On the register are only guests who were late when it was cleared.
So with an accept loop that had ended before the guests were taken, everybody has closed and the register is
empty. To close once more changes nothing. -/
theorem listener_close (settings : Settings) (splitter : Splitter) (handler : Option (Handler μ ε))
    (memory : μ) (address : String) (firstId : Nat)
    (turns : List (Nat × Listener.Turn ε))
    (hover : ((new settings splitter handler memory address firstId).start.2.play turns).closing =
      .over) :
    let start := (new settings splitter handler memory address firstId).start.2
    let l := start.play turns
    ∃ snap cleared stopped : Listener μ ε, start.Moments turns snap cleared stopped ∧
      stopped.pool.stopped = false ∧ l.guests.length = stopped.guests.length ∧
      (∀ i g, stopped.guests[i]? = some g → g.session.Parted ∨ snap.Late i ∧ g.isOpen = true) ∧
      (∀ i ∈ l.register, cleared.Late i) ∧
      (snap.accepting = .ended → (∀ g ∈ stopped.guests, g.session.Parted) ∧ l.register = []) ∧
      ∀ now fuel, l.close now fuel = l ∧ l.closeStep now fuel = l := by
  intro start l
  have hsteady : start.Steady := steady_start ..
  obtain ⟨snap, cleared, stopped, h⟩ := hsteady.exists_moments (Nat.zero_le 3) hover
  have hparted : ∀ i g, stopped.guests[i]? = some g → g.session.Parted ∨ snap.Late i ∧ g.isOpen = true :=
    fun i g hg => h.parted (orderly_start ..) hsteady hg
  obtain ⟨hrunning, hlength⟩ := h.complete hsteady
  refine ⟨snap, cleared, stopped, h, hrunning, hlength, hparted, h.late_of_register hsteady,
    fun hended => ?_, fun now fuel => ⟨?_, ?_⟩⟩
  · obtain ⟨hall, hregister⟩ := h.of_ended hsteady hended
    refine ⟨fun g hg => ?_, hregister⟩
    obtain ⟨i, hi⟩ := List.mem_iff_getElem?.mp hg
    refine (hparted i g hi).resolve_right fun hlate => ?_
    rcases hlate.1 with hlate | hmade
    · have hlt := (List.getElem?_eq_some_iff.mp hi).1
      omega
    · rw [hended] at hmade
      cases hmade
  · exact close_of_closed (by rw [hover]; nofun) now fuel
  · unfold closeStep
    rw [hover]

open Listener in
/-- The accept loop puts its second guest on the register when the close has already taken the guests: the
first guest has parted, the second is open. -/
theorem listener_close_second :
    let start : Listener Unit Empty :=
      (new (Settings.server "localhost" 6380) .line none () "127.0.0.1:6380" 0).start.2
    let turns : List (Nat × Listener.Turn Empty) := [.move (.accept (none, none)), .move .register,
      .move .employ, .move (.accept (none, none)), .close 1, .close 1, .close 1, .close 1, .move .register,
      .move .employ, .close 1, .close 1, .close 1, .close 1, .close 1, .endAccepting, .close 1].map (0, ·)
    let l := start.play turns
    l.closing = .over ∧ l.accepting = .ended ∧ l.guests.map Guest.isOpen = [false, true] ∧
      l.register = [] ∧ ∃ snap cleared stopped : Listener Unit Empty,
        start.Moments turns snap cleared stopped ∧
        (∀ i g, stopped.guests[i]? = some g → g.session.Parted ∨ snap.Late i ∧ g.isOpen = true) ∧
        ∀ now fuel, l.close now fuel = l := by
  intro start turns l
  have hover : l.closing = .over := by decide +kernel
  obtain ⟨snap, cleared, stopped, h, -, -, hparted, -, -, hagain⟩ := listener_close
    (Settings.server "localhost" 6380) .line none () "127.0.0.1:6380" 0 turns hover
  exact ⟨hover, by decide +kernel, by decide +kernel, by decide +kernel, snap, cleared, stopped, h, hparted,
    fun now fuel => (hagain now fuel).1⟩

open Listener in
/-- The close overtakes the accept loop, which has made a guest and puts it on the register when all is
over: the guest stays open and on the register, though the accept loop has ended. -/
theorem listener_close_overtaken :
    let start : Listener Unit Empty :=
      (new (Settings.server "localhost" 6380) .line none () "127.0.0.1:6380" 0).start.2
    let turns : List (Nat × Listener.Turn Empty) := [.move (.accept (none, none)), .close 1, .close 1, .close 1,
      .close 1, .close 1, .close 1, .close 1, .move .register, .move .employ, .endAccepting].map (0, ·)
    let l := start.play turns
    l.closing = .over ∧ l.accepting = .ended ∧ l.guests.map Guest.isOpen = [true] ∧ l.register = [0] ∧
      ¬ ((∀ g ∈ l.guests, g.session.Parted) ∧ l.register = []) := by
  intro start turns l
  have hregister : l.register = [0] := by decide +kernel
  refine ⟨by decide +kernel, by decide +kernel, by decide +kernel, hregister, fun hclosed => ?_⟩
  rw [hregister] at hclosed
  exact absurd hclosed.2 (List.cons_ne_nil 0 [])

end SessionEngine
