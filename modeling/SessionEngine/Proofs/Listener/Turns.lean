import SessionEngine.Proofs.Listener.Parting

/-! A close that goes on among the steps of a listener. A close is many steps, and the accept loop, the
guests and their tasks take theirs in between. `Shift` says what any step does to the register and to the
accept loop, `closeStep_keeps` what a step of the close leaves alone, and by `exists_step` a close that has
come far has taken each step on the way. -/

namespace SessionEngine

variable {ε : Type}

/-- How far a close has come. -/
def ClosePhase.rank : ClosePhase → Nat
  | .notBegun => 0
  | .flagged => 1
  | .signalled => 2
  | .unbound => 3
  | .closing .. => 4
  | .awaiting _ => 5
  | .cleared => 6
  | .over => 7

namespace Listener

inductive Turn (ε : Type) where
  | move (m : Move ε)
  /-- The accept loop sees that it is to stop. -/
  | endAccepting
  /-- The close goes on, and waits for at most `fuel` events of a guest. -/
  | close (fuel : Nat)

/-- Nobody comes, to the register or to the guests, and the accept loop, the close and the pool stay. -/
structure Rests (l l' : Listener μ ε) : Prop where
  register : l'.register ⊆ l.register
  accepting : l'.accepting = l.accepting
  length : l'.guests.length = l.guests.length
  closing : l'.closing = l.closing
  pool : l'.pool = l.pool

/-- What a step does to the accept loop, with the register and the guests. -/
inductive Shift (l l' : Listener μ ε) : Prop
  | rests (h : Rests l l')
  | accepted (hrunning : l.pool.stopped = false) (hwaiting : l.accepting = .waiting)
      (h : Rests { l with accepting := .made l.guests.length, guests := l'.guests } l')
      (hlength : l'.guests.length = l.guests.length + 1)
  | registered (i : Nat) (hmade : l.accepting = .made i)
      (h : Rests { l with accepting := .registered i, register := l.register ++ [i] } l')
  | employed (i : Nat) (hregistered : l.accepting = .registered i)
      (h : Rests { l with accepting := .waiting } l')
  | ended (hwaiting : l.accepting = .waiting) (h : Rests { l with accepting := .ended } l')

variable {l l' l'' : Listener μ ε} {i : Nat} {g : Guest μ ε} {now : Nat}

theorem Rests.refl (l : Listener μ ε) : Rests l l := ⟨List.Subset.refl _, rfl, rfl, rfl, rfl⟩

theorem Rests.trans (h : Rests l l') (h' : Rests l' l'') : Rests l l'' :=
  ⟨List.Subset.trans h'.register h.register, h'.accepting.trans h.accepting, h'.length.trans h.length,
    h'.closing.trans h.closing, h'.pool.trans h.pool⟩

theorem rests_modify (l : Listener μ ε) (i : Nat) (f : Guest μ ε → Guest μ ε) : Rests l (l.modify i f) :=
  ⟨List.Subset.refl _, rfl, List.length_modify .., rfl, rfl⟩

theorem rests_modifySession (l : Listener μ ε) (i : Nat) (f : Session ε → Session ε) :
    Rests l (l.modifySession i f) := l.rests_modify i _

theorem Shift.closing (h : Shift l l') : l'.closing = l.closing := by
  cases h with
  | rests h | accepted _ _ h _ | registered _ _ h | employed _ _ h | ended _ h => exact h.closing

theorem Shift.pool (h : Shift l l') : l'.pool = l.pool := by
  cases h with
  | rests h | accepted _ _ h _ | registered _ _ h | employed _ _ h | ended _ h => exact h.pool

theorem shift_endAccepting (l : Listener μ ε) :
    Shift l (l.endAccepting?.getD l) ∧ (l.endAccepting?.getD l).guests = l.guests := by
  unfold endAccepting?
  split
  next h => exact ⟨.ended h.1 ⟨List.Subset.refl _, rfl, rfl, rfl, rfl⟩, rfl⟩
  · exact ⟨.rests (.refl l), rfl⟩

variable [Tls.RecordEngine ε]

def turn (l : Listener μ ε) (now : Nat) : Turn ε → Listener μ ε
  | .move m => l.move now m
  | .endAccepting => l.endAccepting?.getD l
  | .close fuel => l.closeStep now fuel

def play (turns : List (Nat × Turn ε)) (l : Listener μ ε) : Listener μ ε :=
  turns.foldl (fun l t => l.turn t.1 t.2) l

theorem rests_deliver? (hproper : ∀ g ∈ l.guests, Proper g) (h : l.deliver? i now = some l') :
    Rests l l' := by
  obtain ⟨g, delivery, pool, hg, hstep, rfl⟩ := deliver?_eq_some h
  exact ⟨List.Subset.refl _, rfl, List.length_modify .., rfl,
    (Delivery.step?_pool hstep).2 (hproper g (List.mem_of_getElem? hg)).ownsPool⟩

theorem settleGuest_keeps (hproper : ∀ g ∈ l.guests, Proper g) (i now fuel : Nat) :
    Rests l (l.settleGuest i now fuel) ∧ Departs l.guests (l.settleGuest i now fuel).guests := by
  induction fuel generalizing l with
  | zero => exact ⟨.refl l, .refl l.guests⟩
  | succ fuel ih =>
    unfold settleGuest
    split
    · exact ⟨.refl l, .refl l.guests⟩
    next l' h =>
      have hfirst := departs_deliver? h
      obtain ⟨hrests, hdeparts⟩ := ih (hfirst.proper hproper)
      exact ⟨(rests_deliver? hproper h).trans hrests, hfirst.trans hdeparts⟩

theorem shift_move (hproper : ∀ g ∈ l.guests, Proper g) (now : Nat) (m : Move ε) :
    Shift l (l.move now m) := by
  have hgetD := getD_keeps (Shift l) (.rests (.refl l))
  cases m with
  | accept addresses =>
    refine hgetD _ fun l' h => ?_
    obtain ⟨hwaiting, hrunning, new, -, -, -, rfl⟩ := accept?_eq_some h
    exact .accepted hrunning hwaiting ⟨List.Subset.refl _, rfl, rfl, rfl, rfl⟩ (by simp)
  | register =>
    refine hgetD _ fun l' h => ?_
    obtain ⟨i, hmade, rfl⟩ := register?_eq_some h
    exact .registered i hmade ⟨List.Subset.refl _, rfl, rfl, rfl, rfl⟩
  | employ =>
    refine hgetD _ fun l' h => ?_
    obtain ⟨i, hregistered, rfl⟩ := employ?_eq_some h
    refine .employed i hregistered ?_
    split
    · exact .refl _
    · exact rests_modify { l with accepting := .waiting } _ _
  | establish i o =>
    refine hgetD _ fun l' h => ?_
    obtain ⟨g, result, s, traffic, -, -, -, rfl⟩ := open?_eq_some h
    exact .rests ⟨List.Subset.refl _, rfl, List.length_modify .., rfl, rfl⟩
  | beginLoop i =>
    refine hgetD _ fun l' h => ?_
    obtain rfl := beginLoop?_eq_some h
    exact .rests (l.rests_modify i _)
  | watch i =>
    refine hgetD _ fun l' h => ?_
    obtain ⟨g, -, -, rfl⟩ := watch?_eq_some h
    exact .rests (l.rests_modify i _)
  | deregister i =>
    refine hgetD _ fun l' h => ?_
    obtain ⟨g, -, -, -, rfl⟩ := deregister?_eq_some h
    exact .rests ⟨List.filter_subset_self _, rfl, List.length_modify .., rfl, rfl⟩
  | deliver i => exact hgetD _ fun l' h => .rests (rests_deliver? hproper h)
  | deed i d => exact .rests (rests_modifySession l i fun s => s.perform now d)
  | visit i => exact .rests (rests_modifySession l i (·.watchClose))
  | leave i =>
    exact .rests (rests_modify l i fun g => if g.visited then g.withSession g.session.unwatchClose else g)

/-! ### Turns -/

/-- What holds of a listener however far its close has come. -/
structure Steady (l : Listener μ ε) : Prop where
  proper : ∀ g ∈ l.guests, Proper g
  pool : l.pool.stopped = true ↔ l.closing = .over

/-- A step of the close leaves the accept loop alone, takes guests off the register at most, and stops the
pool with its last step. The close comes one step further, or goes on where it is. -/
theorem closeStep_keeps (hl : l.Steady) (now fuel : Nat) :
    Rests { l with closing := (l.closeStep now fuel).closing, pool := (l.closeStep now fuel).pool }
        (l.closeStep now fuel) ∧
      Departs l.guests (l.closeStep now fuel).guests ∧
      ((l.closeStep now fuel).pool.stopped = true ↔ (l.closeStep now fuel).closing = .over) ∧
      ((l.closeStep now fuel).closing.rank = l.closing.rank ∨
        (l.closeStep now fuel).closing.rank = l.closing.rank + 1) := by
  have hpool := hl.pool
  unfold closeStep
  split
  next hphase => exact ⟨.refl _, .refl _, by simp [hpool, hphase], .inr (by rw [hphase]; rfl)⟩
  next hphase =>
    exact ⟨⟨List.Subset.refl _, rfl, rfl, rfl, rfl⟩, .refl _, by simp [hpool, hphase],
      .inr (by rw [hphase]; rfl)⟩
  next hphase =>
    exact ⟨⟨List.Subset.refl _, rfl, rfl, rfl, rfl⟩, .refl _, by simp [hpool, hphase],
      .inr (by rw [hphase]; rfl)⟩
  next hphase => exact ⟨.refl _, .refl _, by simp [hpool, hphase], .inr (by rw [hphase]; rfl)⟩
  next i left all hphase =>
    refine ⟨⟨List.Subset.refl _, rfl, List.length_modify .., rfl, rfl⟩,
      l.departs_modifySession i fun s => s.parts_close, ?_, .inl (by rw [hphase]; rfl)⟩
    simp [closeGuest, Listener.modifySession, Listener.modify, hpool, hphase]
  next all hphase => exact ⟨.refl _, .refl _, by simp [hpool, hphase], .inr (by rw [hphase]; rfl)⟩
  next i left hphase =>
    obtain ⟨hrests, hdeparts⟩ := settleGuest_keeps hl.proper i now fuel
    refine ⟨⟨hrests.register, hrests.accepting, hrests.length, rfl, rfl⟩, hdeparts, ?_,
      .inl (by rw [hphase]; rfl)⟩
    simp [hrests.pool, hpool, hphase]
  next hphase =>
    exact ⟨⟨List.nil_subset _, rfl, rfl, rfl, rfl⟩, .refl _, by simp [hpool, hphase],
      .inr (by rw [hphase]; rfl)⟩
  next hphase =>
    exact ⟨⟨List.Subset.refl _, rfl, rfl, rfl, rfl⟩, .refl _, by simp [Workers.shutdown],
      .inr (by rw [hphase]; rfl)⟩
  next => exact ⟨.refl _, .refl _, hpool, .inl rfl⟩

theorem turn_keeps (hl : l.Steady) (now : Nat) (t : Turn ε) :
    Shift { l with closing := (l.turn now t).closing, pool := (l.turn now t).pool } (l.turn now t) ∧
      Departs l.guests (l.turn now t).guests ∧ (l.turn now t).Steady := by
  have hstays : ∀ l' : Listener μ ε, Shift l l' → Departs l.guests l'.guests →
      Shift { l with closing := l'.closing, pool := l'.pool } l' ∧ Departs l.guests l'.guests ∧
        l'.Steady := by
    intro l' h hdeparts
    refine ⟨?_, hdeparts, hdeparts.proper hl.proper, ?_⟩
    · rw [h.closing, h.pool]
      exact h
    · rw [h.closing, h.pool]
      exact hl.pool
  cases t with
  | move m => exact hstays _ (shift_move hl.proper now m) (l.departs_move now m)
  | endAccepting =>
    obtain ⟨h, hguests⟩ := l.shift_endAccepting
    refine hstays _ h ?_
    show Departs l.guests (l.endAccepting?.getD l).guests
    rw [hguests]
    exact .refl _
  | close fuel =>
    obtain ⟨hrests, hdeparts, hpool, -⟩ := closeStep_keeps hl now fuel
    exact ⟨.rests hrests, hdeparts, hdeparts.proper hl.proper, hpool⟩

/-- Only the close itself goes on, one step after the other. -/
theorem rank_turn (hl : l.Steady) (now : Nat) (t : Turn ε) :
    (l.turn now t).closing = l.closing ∨ ∃ fuel, t = .close fuel ∧
      ((l.turn now t).closing.rank = l.closing.rank ∨
        (l.turn now t).closing.rank = l.closing.rank + 1) := by
  cases t with
  | move m => exact .inl (shift_move hl.proper now m).closing
  | endAccepting => exact .inl l.shift_endAccepting.1.closing
  | close fuel => exact .inr ⟨fuel, rfl, (closeStep_keeps hl now fuel).2.2.2⟩

theorem turn_close (l : Listener μ ε) (now fuel : Nat) : l.turn now (.close fuel) = l.closeStep now fuel :=
  rfl

theorem play_append_cons (l : Listener μ ε) (before : List (Nat × Turn ε)) (now : Nat) (t : Turn ε)
    (after : List (Nat × Turn ε)) :
    l.play (before ++ (now, t) :: after) = ((l.play before).turn now t).play after :=
  List.foldl_append ..

theorem Steady.play_keeps {P : Listener μ ε → Prop} (hl : l.Steady) (hP : P l)
    (hturn : ∀ l now t, Steady l → P l → P (l.turn now t)) (turns : List (Nat × Turn ε)) :
    P (l.play turns) := by
  induction turns generalizing l with
  | nil => exact hP
  | cons t turns ih => exact ih (turn_keeps hl t.1 t.2).2.2 (hturn l t.1 t.2 hl hP)

theorem Steady.play (hl : l.Steady) (turns : List (Nat × Turn ε)) : (l.play turns).Steady :=
  hl.play_keeps hl (fun _ now t hsteady _ => (turn_keeps hsteady now t).2.2) turns

theorem rank_le_turn (hl : l.Steady) (now : Nat) (t : Turn ε) :
    l.closing.rank ≤ (l.turn now t).closing.rank := by
  rcases rank_turn hl now t with h | ⟨fuel, -, h | h⟩
  · exact Nat.le_of_eq (congrArg ClosePhase.rank h.symm)
  · exact Nat.le_of_eq h.symm
  · omega

theorem Steady.rank_le_play (hl : l.Steady) (turns : List (Nat × Turn ε)) :
    l.closing.rank ≤ (l.play turns).closing.rank :=
  hl.play_keeps (Nat.le_refl _) (fun _ now t hsteady hle => Nat.le_trans hle (rank_le_turn hsteady now t))
    turns

/-- On its way the close takes the step from each rank to the next. -/
theorem Steady.exists_step (hl : l.Steady) {r : Nat} {turns : List (Nat × Turn ε)}
    (hbefore : l.closing.rank ≤ r) (hafter : r < (l.play turns).closing.rank) :
    ∃ before now fuel after, turns = before ++ (now, .close fuel) :: after ∧
      (l.play before).closing.rank = r ∧ ((l.play before).closeStep now fuel).closing.rank = r + 1 := by
  induction turns generalizing l with
  | nil => exact absurd hafter (Nat.not_lt.mpr hbefore)
  | cons t turns ih =>
    obtain ⟨now, t⟩ := t
    by_cases hstill : (l.turn now t).closing.rank ≤ r
    · obtain ⟨before, time, fuel, after, rfl, hrank⟩ := ih (turn_keeps hl now t).2.2 hstill hafter
      exact ⟨(now, t) :: before, time, fuel, after, rfl, hrank⟩
    · -- This is the turn with which the close comes further than `r`.
      rcases rank_turn hl now t with h | ⟨fuel, rfl, h | h⟩
      · rw [h] at hstill
        exact absurd hbefore hstill
      · rw [h] at hstill
        exact absurd hbefore hstill
      · have hrank : l.closing.rank = r := by omega
        exact ⟨[], now, fuel, turns, rfl, hrank, h.trans (congrArg (· + 1) hrank)⟩

end Listener

end SessionEngine
