import SessionEngine.Proofs.Pool.Tenants
import SessionEngine.Proofs.Course.History

/-! Courses that never end. Where the dispatcher goes on, every callback comes to its end
(`exists_after`), so that the dispatcher waits again and again or is over (`exists_rest`), and every
event that is queued is told of unless the dispatcher is over before (`told_of_serves`). -/

namespace SessionEngine

variable {ε : Type}

/-- What holds up to a stop holds at the first one that comes. -/
theorem exists_stop {P Q : Nat → Prop} {n : Nat} (hkeep : ∀ k ≥ n, ¬ Q k → P k → P (k + 1))
    (hstop : ∃ k ≥ n, Q k) (hP : P n) : ∃ k ≥ n, Q k ∧ P k := by
  obtain ⟨k, hk, hs⟩ := hstop
  obtain ⟨d, rfl⟩ := Nat.exists_eq_add_of_le hk
  -- The induction is on how far away a stop is; another one may come sooner.
  induction d generalizing n with
  | zero => exact ⟨n, Nat.le_refl n, hs, hP⟩
  | succ d ih =>
    by_cases hfirst : Q n
    · exact ⟨n, Nat.le_refl n, hfirst, hP⟩
    · have hs' : Q (n + 1 + d) := by rwa [show n + 1 + d = n + (d + 1) by omega]
      have hP' := hkeep n (Nat.le_refl n) hfirst hP
      obtain ⟨k, hk, rest⟩ := ih (n := n + 1) (fun k hk => hkeep k (by omega)) hP' (Nat.le_add_right _ _) hs'
      exact ⟨k, by omega, rest⟩

/-- The moves of a course that never ends, each with its time. -/
abbrev Agenda := Nat → Nat × Move

/-- The dispatcher goes on: again and again it may take an event, and its callback may act. -/
def Agenda.Serves (agenda : Agenda) : Prop :=
  ∀ n, (∃ k ≥ n, (agenda k).2 = .tell) ∧ ∃ k ≥ n, (agenda k).2 = .act

namespace Agenda

/-- First some moves, and then the dispatcher and its callback in turn. -/
def turning (moves : List Move) : Agenda :=
  fun n => (0, moves.getD n (if n % 2 = 0 then .tell else .act))

theorem turning_of_le {moves : List Move} {n : Nat} (hn : moves.length ≤ n) :
    (turning moves n).2 = if n % 2 = 0 then .tell else .act := by
  simp only [turning, List.getD_eq_getElem?_getD, List.getElem?_eq_none hn, Option.getD_none]

theorem serves_turning (moves : List Move) : (turning moves).Serves := by
  refine fun n => ⟨⟨2 * (n + moves.length), by omega, ?_⟩, 2 * (n + moves.length) + 1, by omega, ?_⟩
  · rw [turning_of_le (by omega), if_pos (by omega)]
  · rw [turning_of_le (by omega), if_neg (by omega)]

/-- Nobody moves in any other way. -/
theorem turning_ne {moves : List Move} {m : Move} (hmoves : m ∉ moves) (htell : m ≠ .tell) (hact : m ≠ .act)
    (n : Nat) : (turning moves n).2 ≠ m := by
  rcases Nat.lt_or_ge n moves.length with hn | hn
  · rintro rfl
    refine hmoves ?_
    simp only [turning, List.getD_eq_getElem?_getD, List.getElem?_eq_getElem hn, Option.getD_some]
    exact List.getElem_mem hn
  · rw [turning_of_le hn]
    split
    · exact htell.symm
    · exact hact.symm

end Agenda

namespace Course

variable {c : Course μ ε} {h : Handler μ ε} {agenda : Agenda} {n k : Nat}

theorem told_prefix_queued (c : Course μ ε) : c.told <+: c.queued := List.prefix_append _ _

theorem told_tell {c : Course μ ε} {memory : μ} {e : Event} {rest : List Event}
    (hwaiting : c.dispatcher = .waiting memory) (hnext : c.session.events.pending = e :: rest) :
    (c.tell h).told = c.told ++ [e] := by
  simp only [tell, hwaiting, EventQueue.pop?, hnext]

variable [Tls.RecordEngine ε]

/-- The course after its first moves. -/
def along (c : Course μ ε) (h : Handler μ ε) (agenda : Agenda) : Nat → Course μ ε
  | 0 => c
  | n + 1 => (c.along h agenda n).move h (agenda n).1 (agenda n).2

/-- What every move keeps holds at all later moments. -/
theorem along_keeps {P : Course μ ε → Prop} (hkeep : ∀ k ≥ n, P (c.along h agenda k) →
    P (c.along h agenda (k + 1))) (hP : P (c.along h agenda n)) (hk : n ≤ k) :
    P (c.along h agenda k) := by
  induction hk with
  | refl => exact hP
  | step hle ih => exact hkeep _ hle ih

theorem extends_along (c : Course μ ε) (h : Handler μ ε) (agenda : Agenda) (hk : n ≤ k) :
    (c.along h agenda n).Extends (c.along h agenda k) :=
  along_keeps (P := fun c' => (c.along h agenda n).Extends c')
    (fun _ _ hext => hext.trans (extends_move _ h _ _)) (.refl _) hk

/-- What was queued stays so, and in its place. -/
theorem queued_prefix_move (c : Course μ ε) (h : Handler μ ε) (now : Nat) (m : Move) :
    c.queued <+: (c.move h now m).queued := by
  have hrun : c.queued <+: (c.run h [(now, m)]).queued := by
    refine run_keeps (fun c' => c.queued <+: c'.queued) (fun {c'} now d hc => hc.trans ?_)
      (fun {c'} hc => ?_) (fun _ hc => hc) List.prefix_rfl
    · rw [queued, queued, perform, Session.events_perform]
      exact List.prefix_append_right_inj c'.told |>.mpr (EventQueue.pending_prefix_foldl _ _)
    · rw [(c'.queued_tell h).1]
      exact hc
  exact hrun

theorem queued_prefix_along (c : Course μ ε) (h : Handler μ ε) (agenda : Agenda) (hk : n ≤ k) :
    (c.along h agenda n).queued <+: (c.along h agenda k).queued :=
  along_keeps (P := fun c' => (c.along h agenda n).queued <+: c'.queued)
    (fun _ _ hc => hc.trans (queued_prefix_move _ h _ _)) List.prefix_rfl hk

/-! ### Dispatchers that go on -/

theorem exists_act (hserves : agenda.Serves) {e : Event} {script : Script μ ε}
    (hcall : (c.along h agenda n).dispatcher = .calling e script) :
    ∃ k ≥ n, ∃ now s, (c.along h agenda k).dispatcher = script.following now e s := by
  have hkeep (k : Nat) (hm : (agenda k).2 ≠ .act)
      (hcall : (c.along h agenda k).dispatcher = .calling e script) :
      (c.along h agenda (k + 1)).dispatcher = .calling e script := by
    rw [along]
    cases hnext : (agenda k).2 with
    | deed d => exact hcall
    | tell => simp only [move, tell, hcall]
    | act => exact absurd hnext hm
  obtain ⟨k, hk, hact, hcall'⟩ := exists_stop (fun k _ => hkeep k) (hserves n).2 hcall
  refine ⟨k + 1, by omega, (agenda k).1, (c.along h agenda k).session, ?_⟩
  rw [along, hact, move, act_of_calling hcall']

/-- A callback that is at work comes to its end. -/
theorem exists_after (hserves : agenda.Serves) {e : Event} (script : Script μ ε)
    (hcall : (c.along h agenda n).dispatcher = .calling e script) :
    ∃ k ≥ n, ∃ memory, (c.along h agenda k).dispatcher = .after e memory := by
  -- The rest of a callback is one of the branches of its script.
  induction script generalizing n with
  | done memory _ | panic memory =>
    obtain ⟨k, hk, now, s, hnext⟩ := exists_act hserves hcall
    exact ⟨k, hk, memory, hnext⟩
  | send data next ih | close next ih | attach ping pong next ih | beat slot next ih
  | inspect next ih =>
    obtain ⟨k, hk, now, s, hnext⟩ := exists_act hserves hcall
    obtain ⟨k', hk', memory, hafter⟩ := ih _ hnext
    exact ⟨k', by omega, memory, hafter⟩

/-- A dispatcher that goes on waits at some time, or is over. -/
theorem exists_rest (hserves : agenda.Serves) (c : Course μ ε) (h : Handler μ ε) (n : Nat) :
    ∃ k ≥ n, (c.along h agenda k).dispatcher.isOver = true ∨
      ∃ memory, (c.along h agenda k).dispatcher = .waiting memory := by
  cases hdispatcher : (c.along h agenda n).dispatcher with
  | waiting memory => exact ⟨n, Nat.le_refl n, .inr ⟨memory, hdispatcher⟩⟩
  | calling e script =>
    obtain ⟨k, hk, memory, hafter⟩ := exists_after hserves script hdispatcher
    refine ⟨k, hk, ?_⟩
    rw [hafter]
    unfold Dispatcher.after
    split
    · exact .inl rfl
    · exact .inr ⟨memory, rfl⟩
  | _ => exact ⟨n, Nat.le_refl n, .inl (by rw [hdispatcher]; rfl)⟩

/-- A dispatcher that waits while events do takes one of them. -/
theorem exists_tell (hserves : agenda.Serves) {memory : μ}
    (hwaiting : (c.along h agenda n).dispatcher = .waiting memory)
    (hpending : (c.along h agenda n).session.events.pending ≠ []) :
    ∃ k ≥ n, (c.along h agenda n).told.length < (c.along h agenda k).told.length := by
  have hkeep (k : Nat) (hm : (agenda k).2 ≠ .tell)
      (hc : (c.along h agenda k).dispatcher = .waiting memory ∧
        (c.along h agenda k).told = (c.along h agenda n).told) :
      (c.along h agenda (k + 1)).dispatcher = .waiting memory ∧
        (c.along h agenda (k + 1)).told = (c.along h agenda n).told := by
    rw [along]
    cases hnext : (agenda k).2 with
    | deed d => exact hc
    | tell => exact absurd hnext hm
    | act => simpa only [move, act, hc.1] using hc
  obtain ⟨k, hk, htell, hwaiting', htold⟩ := exists_stop (fun k _ => hkeep k) (hserves n).1 ⟨hwaiting, rfl⟩
  have hlonger : (c.along h agenda k).told.length < (c.along h agenda k).queued.length := by
    refine Nat.lt_of_lt_of_le ?_ (c.queued_prefix_along h agenda hk).length_le
    rw [htold, queued, List.length_append]
    exact Nat.lt_add_of_pos_right (List.length_pos_iff.mpr hpending)
  have hmore : (c.along h agenda k).session.events.pending ≠ [] := by
    intro hnone
    rw [queued, hnone, List.append_nil] at hlonger
    exact Nat.lt_irrefl _ hlonger
  obtain ⟨e, rest, hnext⟩ := List.exists_cons_of_ne_nil hmore
  refine ⟨k + 1, by omega, ?_⟩
  rw [along, htell, move, told_tell hwaiting' hnext, htold, List.length_append]
  exact Nat.lt_succ_self _

/-- An event that is queued is told of, unless the dispatcher is over before. -/
theorem told_of_serves (hserves : agenda.Serves) (c : Course μ ε) (h : Handler μ ε) {i : Nat}
    (hi : i < (c.along h agenda n).queued.length) :
    ∃ k ≥ n, i < (c.along h agenda k).told.length ∨ (c.along h agenda k).dispatcher.isOver = true := by
  -- The induction is on how many of the events up to this one the handler was not told of.
  obtain ⟨d, hd⟩ : ∃ d, i < (c.along h agenda n).told.length + d := ⟨i + 1, by omega⟩
  induction d generalizing n with
  | zero => exact ⟨n, Nat.le_refl n, .inl hd⟩
  | succ d ih =>
    obtain ⟨k, hk, hover | ⟨memory, hwaiting⟩⟩ := exists_rest hserves c h n
    · exact ⟨k, hk, .inr hover⟩
    · have htold := (c.extends_along h agenda hk).told.length_le
      have hqueued := (c.queued_prefix_along h agenda hk).length_le
      by_cases hheard : i < (c.along h agenda k).told.length
      · exact ⟨k, hk, .inl hheard⟩
      · have hpending : (c.along h agenda k).session.events.pending ≠ [] := by
          intro hnone
          have hall : (c.along h agenda k).queued = (c.along h agenda k).told := by
            rw [queued, hnone, List.append_nil]
          rw [hall] at hqueued
          omega
        obtain ⟨k', hk', hmore⟩ := exists_tell hserves hwaiting hpending
        have hqueued' := (c.queued_prefix_along h agenda hk').length_le
        obtain ⟨k'', hk'', hend⟩ := ih (n := k') (by omega) (by omega)
        exact ⟨k'', by omega, hend⟩

end Course

end SessionEngine
