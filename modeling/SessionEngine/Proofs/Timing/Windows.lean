import Mathlib.Order.Bounds.Defs
import SessionEngine.Proofs.Framing.Growing
import SessionEngine.Proofs.Timing.Bursts
import SessionEngine.Text.Span

/-! Waiting for a message under a framing while bytes arrive. The window of the wait starts again with each
arrival, and what is buffered is looked at then. `Awaits` says step by step how such a wait ends; by
`Awaits.decided` it ends with the first arrival that decides it if none came too late before that, and by
`Awaits.expired` it ends without a message when the window has passed, if nothing decides it. -/

namespace SessionEngine

/-- Each of the arrivals comes less than `window` behind the one before it, and the first one so behind
`anchor`. -/
def Prompt (window anchor : Nat) (coming : List Arrival) : Prop :=
  (anchor :: coming.map Prod.fst).IsChain fun time next => next < time + window

instance (window anchor : Nat) (coming : List Arrival) : Decidable (Prompt window anchor coming) :=
  inferInstanceAs (Decidable (List.IsChain _ _))

theorem prompt_nil (window anchor : Nat) : Prompt window anchor [] := .singleton anchor

theorem prompt_cons {window anchor : Nat} {a : Arrival} {coming : List Arrival} :
    Prompt window anchor (a :: coming) ↔ a.1 < anchor + window ∧ Prompt window a.1 coming :=
  List.isChain_cons_cons

namespace Framing

/-- What is found at the head of `data`, if it is whole: a message, and what follows it; or the fault,
with all of `data` left. -/
def verdict (f : Framing) (data : Bytes) : Option (Except Error Bytes × Bytes) :=
  match Cut.step? f.find data with
  | .ok (some (message, rest)) => some (.ok message, rest)
  | .ok none => none
  | .error fault => some (.error (.splitter fault), data)

variable {f : Framing} {data more rest message : Bytes}

theorem verdict_eq_none_iff : f.verdict data = none ↔ Cut.step? f.find data = .ok none := by
  unfold verdict
  split
  next h => simp [h]
  next h => simp [h]
  next h => simp [h]

theorem verdict_of_some (h : Cut.step? f.find data = .ok (some (message, rest))) :
    f.verdict data = some (.ok message, rest) := by
  rw [verdict, h]

theorem verdict_of_error {fault : SplitFault} (h : Cut.step? f.find data = .error fault) :
    f.verdict data = some (.error (.splitter fault), data) := by
  rw [verdict, h]

/-- What is not decided was not decided when less of it was there. -/
theorem verdict_of_append (h : f.verdict (data ++ more) = none) : f.verdict data = none := by
  rw [verdict_eq_none_iff] at h ⊢
  cases hstep : Cut.step? f.find data with
  | error fault =>
    rw [(Cut.stable_find f).step?_append_error hstep more] at h
    cases h
  | ok found =>
    rcases found with _ | ⟨part, rest⟩
    · rfl
    · rw [(Cut.stable_find f).step?_append hstep more] at h
      cases h

/-- How a wait ends whose window began at `anchor`, with `data` buffered and nothing decided about it,
when `coming` arrives: with the result and at the time given, and `rest` is buffered then. -/
inductive Awaits (f : Framing) (window : Nat) :
    Nat → Bytes → List Arrival → Except Error Bytes → Nat → Bytes → Prop
  /-- Nothing comes before the window has passed. -/
  | expires {anchor : Nat} {data : Bytes} {coming : List Arrival}
      (hlate : ∀ a ∈ coming.head?, anchor + window ≤ a.1) :
      Awaits f window anchor data coming (.error (.readTimeout (Span.toMillis window)))
        (anchor + window) data
  /-- What comes decides the wait. -/
  | decides {anchor : Nat} {data rest : Bytes} {a : Arrival} {late : List Arrival}
      {result : Except Error Bytes} (hsoon : a.1 < anchor + window)
      (hfound : f.verdict (data ++ a.2) = some (result, rest)) :
      Awaits f window anchor data (a :: late) result a.1 rest
  /-- What comes is not enough, and the window starts again. -/
  | restarts {anchor time : Nat} {data rest : Bytes} {a : Arrival} {late : List Arrival}
      {result : Except Error Bytes} (hsoon : a.1 < anchor + window)
      (hnone : f.verdict (data ++ a.2) = none)
      (hlater : Awaits f window a.1 (data ++ a.2) late result time rest) :
      Awaits f window anchor data (a :: late) result time rest

namespace Awaits

variable {window anchor time : Nat} {coming : List Arrival} {result : Except Error Bytes}

/-- The first arrival that decides a wait ends it, if each arrival up to it comes within the window. -/
theorem decided (h : f.Awaits window anchor data coming result time rest)
    {early late : List Arrival} {a : Arrival} (hcoming : coming = early ++ a :: late)
    (hprompt : Prompt window anchor (early ++ [a]))
    (hbefore : f.verdict (data ++ early.flatMap Prod.snd) = none) {result' : Except Error Bytes}
    {rest' : Bytes}
    (hfound : f.verdict (data ++ (early ++ [a]).flatMap Prod.snd) = some (result', rest')) :
    result = result' ∧ time = a.1 ∧ rest = rest' := by
  induction h generalizing early with
  | @expires anchor data coming hlate =>
    subst hcoming
    cases early with
    | nil =>
      have hsoon := (prompt_cons.mp hprompt).1
      have hlate' := hlate a rfl
      omega
    | cons b early =>
      have hsoon := (prompt_cons.mp hprompt).1
      have hlate' := hlate b rfl
      omega
  | @decides anchor data rest b late' result hsoon hfound' =>
    cases early with
    | nil =>
      obtain ⟨rfl, rfl⟩ := List.cons.inj hcoming
      simp only [List.nil_append, List.flatMap_singleton] at hfound
      rw [hfound] at hfound'
      cases hfound'
      exact ⟨rfl, rfl, rfl⟩
    | cons c early =>
      obtain ⟨rfl, -⟩ := List.cons.inj hcoming
      rw [List.flatMap_cons, ← List.append_assoc] at hbefore
      rw [verdict_of_append hbefore] at hfound'
      cases hfound'
  | @restarts anchor time data rest b late' result hsoon hnone hlater ih =>
    cases early with
    | nil =>
      obtain ⟨rfl, -⟩ := List.cons.inj hcoming
      simp only [List.nil_append, List.flatMap_singleton] at hfound
      rw [hfound] at hnone
      cases hnone
    | cons c early =>
      obtain ⟨rfl, hlate⟩ := List.cons.inj hcoming
      rw [List.flatMap_cons, ← List.append_assoc] at hbefore
      rw [List.cons_append, List.flatMap_cons, ← List.append_assoc] at hfound
      exact ih hlate (prompt_cons.mp hprompt).2 hbefore hfound

/-- If nothing decides a wait as long as the arrivals come within the window, it ends at the first moment
that is a whole window behind its beginning and behind all that has come before, and what has come is
buffered. -/
theorem expired (h : f.Awaits window anchor data coming result time rest)
    (horder : (anchor :: coming.map Prod.fst).IsChain (· ≤ ·))
    (hwait : ∀ come, come <+: coming → Prompt window anchor come →
      f.verdict (data ++ come.flatMap Prod.snd) = none) :
    result = .error (.readTimeout (Span.toMillis window)) ∧
      IsLeast {time | anchor + window ≤ time ∧ ∀ a ∈ coming, a.1 < time → a.1 + window ≤ time} time ∧
      rest = data ++ (coming.takeWhile (·.1 < time)).flatMap Prod.snd := by
  induction h with
  | @expires anchor data coming hlate =>
    have hsorted : ∀ a ∈ coming, anchor + window ≤ a.1 := by
      intro a ha
      cases coming with
      | nil => cases ha
      | cons b coming =>
        have hfirst := hlate b rfl
        have hpairwise := (List.isChain_iff_pairwise.mp (List.isChain_cons_cons.mp horder).2)
        rcases List.mem_cons.mp ha with rfl | ha
        · exact hfirst
        · exact hfirst.trans (List.rel_of_pairwise_cons hpairwise (List.mem_map_of_mem ha))
    refine ⟨rfl, ⟨⟨Nat.le_refl _, fun a ha hsoon => ?_⟩, fun time htime => htime.1⟩, ?_⟩
    · have hlate' := hsorted a ha
      omega
    · cases coming with
      | nil => simp
      | cons b coming =>
        have hlate' := hsorted b List.mem_cons_self
        rw [List.takeWhile_cons_of_neg (by simpa using hlate')]
        simp
  | @decides anchor data rest b late result hsoon hfound =>
    have hnone := hwait [b] (List.prefix_append [b] late) (prompt_cons.mpr ⟨hsoon, prompt_nil window b.1⟩)
    rw [List.flatMap_singleton, hfound] at hnone
    cases hnone
  | @restarts anchor time data rest b late result hsoon hnone hlater ih =>
    obtain ⟨hafter, hrest⟩ := List.isChain_cons_cons.mp horder
    obtain ⟨hresult, hleast, hheld⟩ := ih hrest fun come hcome hprompt => by
      have hlonger := hwait (b :: come) (List.cons_prefix_cons.mpr ⟨rfl, hcome⟩)
        (prompt_cons.mpr ⟨hsoon, hprompt⟩)
      rwa [List.flatMap_cons, ← List.append_assoc] at hlonger
    obtain ⟨hwindow, hquiet⟩ := hleast.1
    -- The end is behind the arrival, so that a whole window lies between them.
    have hbefore : b.1 < time := by omega
    refine ⟨hresult, ⟨⟨by omega, fun a ha hcame => ?_⟩, fun time' htime' => ?_⟩, ?_⟩
    · rcases List.mem_cons.mp ha with rfl | ha
      · exact hwindow
      · exact hquiet a ha hcame
    · obtain ⟨hwindow', hquiet'⟩ := htime'
      refine hleast.2 ⟨hquiet' b List.mem_cons_self (by omega), fun a ha hcame => ?_⟩
      exact hquiet' a (List.mem_cons_of_mem b ha) hcame
    · rw [List.takeWhile_cons_of_pos (by simpa using hbefore), List.flatMap_cons, ← List.append_assoc]
      exact hheld

end Awaits

end Framing

end SessionEngine
