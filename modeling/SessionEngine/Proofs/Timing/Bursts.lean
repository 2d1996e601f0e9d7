import Mathlib.Data.List.SplitBy
import SessionEngine.Socket.ReadLoop

/-! Chunks that arrive at their times, and the reads that take them in. `bursts` divides the arrivals
where a read times out between them, and `Grouped` says how far a reader has come with that. `Unfolds`
relates arrivals to the reads of a loop in virtual time: a read that begins at once ends with the next
chunk, or after the timeout. By `unfolds_outcomes` the reads that `ReadLoop.outcomes` lists are such. -/

namespace SessionEngine

/-- A chunk, and when it arrives. -/
abbrev Arrival := Nat × Bytes

/-- The second chunk arrives before a read that begins with the first one times out. -/
def Arrival.near (timeout : Nat) (a b : Arrival) : Bool := decide (b.1 < a.1 + timeout)

/-- The longest runs of arrivals that are near to each other. -/
def bursts (timeout : Nat) (arrivals : List Arrival) : List (List Arrival) :=
  arrivals.splitBy (Arrival.near timeout)

/-- Of arrivals so far, those that are `gone` make whole bursts, and those that are `held` make the
beginning of the next one, which goes on only with a chunk that comes before the read that was begun at
`armed` times out. -/
structure Grouped (timeout armed : Nat) (gone held : List Arrival) : Prop where
  near : held.IsChain fun a b => Arrival.near timeout a b
  apart : ∀ a ∈ gone.getLast?, ∀ b ∈ held.head?, Arrival.near timeout a b = false
  latest : ∀ a ∈ held.getLast?, a.1 = armed
  rested : held = [] → ∀ a ∈ gone.getLast?, a.1 + timeout ≤ armed

namespace Grouped

variable {timeout armed : Nat} {gone held : List Arrival}

theorem nil (timeout armed : Nat) : Grouped timeout armed [] [] :=
  ⟨.nil, by simp, by simp, by simp⟩

/-- A chunk that comes in time goes on with the burst, or begins the next one. -/
theorem push (h : Grouped timeout armed gone held) {time : Nat} {bytes : Bytes} (hafter : armed ≤ time)
    (hsoon : time ≤ armed + timeout) (hgap : ∀ a ∈ held.getLast?, time ≠ a.1 + timeout) :
    Grouped timeout time gone (held ++ [(time, bytes)]) := by
  refine ⟨?_, ?_, by simp, by simp⟩
  · rw [List.isChain_append]
    refine ⟨h.near, .singleton _, fun a ha b hb => ?_⟩
    obtain rfl : (time, bytes) = b := by simpa using hb
    have hlatest := h.latest a ha
    have hne := hgap a ha
    simp only [Arrival.near, decide_eq_true_eq]
    omega
  · intro a ha b hb
    by_cases hheld : held = []
    · obtain rfl : (time, bytes) = b := by simpa [hheld] using hb
      have hrested := h.rested hheld a ha
      simp only [Arrival.near, decide_eq_false_iff_not]
      omega
    · rw [List.head?_append_of_ne_nil _ hheld] at hb
      exact h.apart a ha b hb

/-- A read that times out ends the burst. -/
theorem flush (h : Grouped timeout armed gone held) (hheld : held ≠ []) :
    Grouped timeout (armed + timeout) (gone ++ held) [] := by
  refine ⟨.nil, by simp, by simp, fun _ a ha => ?_⟩
  rw [List.getLast?_append_of_ne_nil _ hheld] at ha
  rw [h.latest a ha]

theorem wait (h : Grouped timeout armed gone []) : Grouped timeout (armed + timeout) gone [] := by
  refine ⟨.nil, by simp, by simp, fun _ a ha => ?_⟩
  have hrested := h.rested rfl a ha
  omega

theorem bursts_append (h : Grouped timeout armed gone held) (hheld : held ≠ []) :
    bursts timeout (gone ++ held) = bursts timeout gone ++ [held] := by
  rw [bursts, List.splitBy_append h.apart, List.splitBy_of_isChain hheld h.near]
  rfl

end Grouped

/-- The reads `passes` of a loop, the first of which begins at `armed`, take in the arrivals, as far as
they end at `stop` at the latest: each read begins when the one before it is over, and ends with the next
chunk or, if none has come, after the timeout. A chunk that comes just then may come first or last. -/
inductive Unfolds (timeout stop : Nat) : Nat → List Arrival → List (Nat × ReadOutcome) → Prop
  | done {armed : Nat} (hstop : stop < armed + timeout) : Unfolds timeout stop armed [] []
  | chunk {armed time : Nat} {bytes : Bytes} {rest : List Arrival} {passes : List (Nat × ReadOutcome)}
      (hafter : armed ≤ time) (hsoon : time ≤ armed + timeout)
      (hrest : Unfolds timeout stop time rest passes) :
      Unfolds timeout stop armed ((time, bytes) :: rest) ((time, .data bytes) :: passes)
  | silence {armed : Nat} {arrivals : List Arrival} {passes : List (Nat × ReadOutcome)}
      (hnone : ∀ a ∈ arrivals.head?, armed + timeout ≤ a.1) (hstop : armed + timeout ≤ stop)
      (hrest : Unfolds timeout stop (armed + timeout) arrivals passes) :
      Unfolds timeout stop armed arrivals ((armed + timeout, .timedOut) :: passes)

theorem ReadLoop.silences_of_lt {timeout armed stop : Nat} (hpos : 0 < timeout)
    (h : armed + timeout < stop) : silences timeout armed stop =
      (armed + timeout, .timedOut) :: silences timeout (armed + timeout) stop := by
  have hcount : (stop - armed - 1) / timeout = (stop - (armed + timeout) - 1) / timeout + 1 := by
    rw [show stop - armed - 1 = stop - (armed + timeout) - 1 + timeout by omega,
      Nat.add_div_right _ hpos]
  rw [silences, hcount, List.range_succ_eq_map, List.map_cons, List.map_map, silences]
  refine congrArg₂ _ (by simp) (List.map_congr_left fun k _ => ?_)
  simp only [Function.comp_apply, Prod.mk.injEq, and_true, Nat.succ_eq_add_one]
  rw [Nat.mul_add_one timeout (k + 1)]
  omega

theorem ReadLoop.silences_of_le {timeout armed stop : Nat} (h : stop ≤ armed + timeout)
    (hpos : 0 < timeout) : silences timeout armed stop = [] := by
  rw [silences, Nat.div_eq_of_lt (by omega)]
  rfl

/-- Reads that time out one after the other until `time`. -/
theorem unfolds_silences {timeout stop armed time : Nat} {arrivals : List Arrival}
    {passes : List (Nat × ReadOutcome)} (hpos : 0 < timeout) (htime : time ≤ stop + 1)
    (hnone : ∀ a ∈ arrivals.head?, time ≤ a.1)
    (hrest : ∀ armed', armed ≤ armed' → (armed = armed' ∨ armed' < time) → time ≤ armed' + timeout →
      Unfolds timeout stop armed' arrivals passes) :
    Unfolds timeout stop armed arrivals (ReadLoop.silences timeout armed time ++ passes) := by
  by_cases hlt : armed + timeout < time
  · rw [ReadLoop.silences_of_lt hpos hlt, List.cons_append]
    refine .silence (fun a ha => ?_) (by omega) ?_
    · have hfirst := hnone a ha
      omega
    · refine unfolds_silences hpos htime hnone fun armed' hle hbefore hge => ?_
      exact hrest armed' (by omega) (by omega) hge
  · rw [ReadLoop.silences_of_le (by omega) hpos]
    exact hrest armed (Nat.le_refl _) (.inl rfl) (by omega)
  termination_by time - armed

/-- The reads that `ReadLoop.outcomes` lists take in the arrivals. -/
theorem unfolds_outcomes {timeout stop : Nat} (hpos : 0 < timeout) {armed : Nat}
    {arrivals : List Arrival} (horder : (armed :: arrivals.map Prod.fst).IsChain (· ≤ ·))
    (hstop : ∀ a ∈ arrivals, a.1 ≤ stop) :
    Unfolds timeout stop armed arrivals (ReadLoop.outcomes timeout armed (stop + 1) arrivals) := by
  induction arrivals generalizing armed with
  | nil =>
    rw [ReadLoop.outcomes, ← List.append_nil (ReadLoop.silences timeout armed (stop + 1))]
    exact unfolds_silences hpos (Nat.le_refl (stop + 1)) (by simp) fun armed' _ _ hge =>
      .done (by omega)
  | cons a rest ih =>
    obtain ⟨time, bytes⟩ := a
    rw [List.map_cons, List.isChain_cons_cons] at horder
    have htime : time ≤ stop := hstop (time, bytes) List.mem_cons_self
    have hrest := ih horder.2 fun a ha => hstop a (List.mem_cons_of_mem _ ha)
    refine unfolds_silences hpos (by omega) (by simp) fun armed' hle hbefore hge => ?_
    have hfirst : armed ≤ time := horder.1
    exact .chunk (by omega) hge hrest

end SessionEngine
