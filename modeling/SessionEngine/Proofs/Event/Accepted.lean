import SessionEngine.Event
import Mathlib.Data.List.Induction

/-! Which of the events that are fired come to be queued. `accepted` says it by the order of the
firings alone, and `records_foldl` shows that the latches of a queue decide the same. The accepted
events hold at most one connect and at most one disconnect (`count_accepted_le_one`), and nothing
follows the disconnect (`accepted_ends`). Taking events from a queue makes no difference to what is
accepted later (`fire_behind`). -/

namespace SessionEngine.EventQueue

/-- Queues an event the way its kind is queued: connect and disconnect are latched. -/
def fire (q : EventQueue) : Event → EventQueue
  | .connect => q.fireConnect
  | .disconnect => q.fireDisconnect
  | e => q.push e

/-- Whether an event that is fired behind the events `before` is accepted: nothing is behind a
disconnect, and a connect only the first time. -/
def Admits (before : List Event) (e : Event) : Prop :=
  .disconnect ∉ before ∧ (e = .connect → .connect ∉ before)

instance (before : List Event) (e : Event) : Decidable (Admits before e) :=
  inferInstanceAs (Decidable (_ ∧ _))

/-- The accepted ones of events that are fired in order, behind the events `before`. -/
def acceptedBehind (before : List Event) : List Event → List Event
  | [] => []
  | e :: rest =>
    (if Admits before e then [e] else []) ++ acceptedBehind (before ++ [e]) rest

/-- The accepted ones of all the events that were ever fired, in order. -/
def accepted (fired : List Event) : List Event := acceptedBehind [] fired

theorem acceptedBehind_append (before fired more : List Event) :
    acceptedBehind before (fired ++ more) =
      acceptedBehind before fired ++ acceptedBehind (before ++ fired) more := by
  induction fired generalizing before with
  | nil => simp [acceptedBehind]
  | cons e fired ih =>
    simp only [List.cons_append, acceptedBehind, ih, List.append_assoc, List.nil_append]

theorem accepted_concat (fired : List Event) (e : Event) :
    accepted (fired ++ [e]) = accepted fired ++ if Admits fired e then [e] else [] := by
  rw [accepted, acceptedBehind_append]
  simp [acceptedBehind, accepted]

theorem accepted_subset (fired : List Event) : accepted fired ⊆ fired := by
  induction fired using List.reverseRecOn with
  | nil => exact List.Subset.refl _
  | append_singleton fired e ih =>
    rw [accepted_concat]
    refine List.append_subset.mpr ⟨List.Subset.trans ih (List.subset_append_left _ _), ?_⟩
    split
    · exact List.subset_append_right _ _
    · exact List.nil_subset _

theorem disconnect_mem_accepted {fired : List Event} (h : .disconnect ∈ fired) :
    .disconnect ∈ accepted fired := by
  induction fired using List.reverseRecOn with
  | nil => cases h
  | append_singleton fired e ih =>
    rw [accepted_concat]
    by_cases hbefore : .disconnect ∈ fired
    · exact List.mem_append_left _ (ih hbefore)
    · obtain rfl : .disconnect = e := by simpa [hbefore] using h
      have hadmits : Admits fired .disconnect := ⟨hbefore, fun he => by cases he⟩
      simp [hadmits]

theorem count_accepted_le_one (fired : List Event) {e : Event}
    (he : e = .connect ∨ e = .disconnect) : (accepted fired).count e ≤ 1 := by
  induction fired using List.reverseRecOn with
  | nil => simp [accepted, acceptedBehind]
  | append_singleton fired last ih =>
    rw [accepted_concat, List.count_append]
    split
    next hadmits =>
      by_cases hlast : last = e
      · subst hlast
        have hnew : last ∉ fired := by
          rcases he with rfl | rfl
          · exact hadmits.2 rfl
          · exact hadmits.1
        have hzero : (accepted fired).count last = 0 :=
          List.count_eq_zero_of_not_mem fun h => hnew (accepted_subset fired h)
        simp [hzero]
      · simpa [List.count_cons_of_ne hlast] using ih
    next => simpa using ih

theorem accepted_ends {fired before after : List Event}
    (h : accepted fired = before ++ .disconnect :: after) : after = [] := by
  induction fired using List.reverseRecOn generalizing after with
  | nil => simp [accepted, acceptedBehind] at h
  | append_singleton fired e ih =>
    rw [accepted_concat] at h
    split at h
    next hadmits =>
      rcases List.eq_nil_or_concat after with hnil | ⟨init, last, rfl⟩
      · exact hnil
      · have hends : accepted fired ++ [e] = (before ++ .disconnect :: init) ++ [last] := by
          simpa using h
        have hfired : accepted fired = before ++ .disconnect :: init :=
          List.append_inj_left' hends rfl
        -- The disconnect was fired before the last event, which could not be accepted then.
        have hmem : Event.disconnect ∈ accepted fired := by rw [hfired]; simp
        exact absurd (accepted_subset fired hmem) hadmits.1
    next => exact ih (by simpa using h)

/-- When a disconnect was fired, the accepted events end with the only one. -/
theorem accepted_eq_concat_disconnect {fired : List Event} (h : .disconnect ∈ fired) :
    ∃ before, accepted fired = before ++ [.disconnect] ∧ .disconnect ∉ before := by
  obtain ⟨before, after, hsplit⟩ := List.append_of_mem (disconnect_mem_accepted h)
  obtain rfl := accepted_ends hsplit
  refine ⟨before, hsplit, fun hmem => ?_⟩
  have hcount := count_accepted_le_one fired (e := .disconnect) (.inr rfl)
  have hpos := List.count_pos_iff.mpr hmem
  rw [hsplit, List.count_append] at hcount
  simp only [List.count_cons_self, List.count_nil] at hcount
  omega

@[simp] theorem connected_push (q : EventQueue) (e : Event) :
    (q.push e).connected = q.connected := by
  unfold push; split <;> rfl

theorem connected_fire (q : EventQueue) (e : Event) :
    (q.fire e).connected = true ↔ q.connected = true ∨ .connect = e := by
  cases e with
  | connect => simp only [fire, fireConnect]; split <;> simp_all
  | disconnect => simp only [fire, fireDisconnect]; split <;> simp
  | _ => simp [fire]

theorem disconnected_fire (q : EventQueue) (e : Event) :
    (q.fire e).disconnected = true ↔ q.disconnected = true ∨ .disconnect = e := by
  cases e with
  | connect => simp only [fire, fireConnect]; split <;> simp
  | _ => simp [fire]

theorem pending_fire (q : EventQueue) (e : Event) :
    (q.fire e).pending =
      q.pending ++
        if q.disconnected = false ∧ (e = .connect → q.connected = false) then [e] else [] := by
  cases e <;> simp [fire, pending_fireConnect, pending_fireDisconnect, pending_push] <;>
    cases q.disconnected <;> cases q.connected <;> simp

/-- What was queued stays in front of what is fired later. -/
theorem pending_prefix_foldl (es : List Event) (q : EventQueue) :
    q.pending <+: (es.foldl EventQueue.fire q).pending := by
  induction es generalizing q with
  | nil => exact List.prefix_rfl
  | cons e es ih =>
    have hfire : q.pending <+: (q.fire e).pending := by
      rw [pending_fire]
      exact List.prefix_append _ _
    exact hfire.trans (ih (q.fire e))

/-- What a queue from which nothing was taken holds of the events that were fired. -/
structure Records (q : EventQueue) (fired : List Event) : Prop where
  connected : q.connected = true ↔ .connect ∈ fired
  disconnected : q.disconnected = true ↔ .disconnect ∈ fired
  pending : q.pending = accepted fired

/-- The latches decide about an event as the order of the firings does. -/
theorem Records.fire {q : EventQueue} {fired : List Event} (h : Records q fired) (e : Event) :
    Records (q.fire e) (fired ++ [e]) := by
  refine ⟨?_, ?_, ?_⟩
  · rw [connected_fire, h.connected]; simp
  · rw [disconnected_fire, h.disconnected]; simp
  · have hadmits : Admits fired e ↔ q.disconnected = false ∧ (e = .connect → q.connected = false) := by
      rw [Admits, ← h.connected, ← h.disconnected]
      simp
    rw [pending_fire, accepted_concat, h.pending]
    simp only [hadmits]

theorem records_foldl (fired : List Event) :
    Records (fired.foldl EventQueue.fire .empty) fired := by
  induction fired using List.reverseRecOn with
  | nil => refine ⟨?_, ?_, rfl⟩ <;> simp [EventQueue.empty]
  | append_singleton fired e ih =>
    rw [List.foldl_append]
    exact ih.fire e

/-! ### What was taken from a queue -/

/-- The queue behind events that were taken from it. -/
def behind (taken : List Event) (q : EventQueue) : EventQueue :=
  { q with pending := taken ++ q.pending }

theorem push_behind (taken : List Event) (q : EventQueue) (e : Event) :
    (q.behind taken).push e = (q.push e).behind taken := by
  unfold push behind
  by_cases h : q.disconnected = true
  · simp only [if_pos h]
  · simp only [if_neg h, List.append_assoc]

theorem fire_behind (taken : List Event) (q : EventQueue) (e : Event) :
    (q.behind taken).fire e = (q.fire e).behind taken := by
  cases e with
  | connect =>
    simp only [fire, fireConnect]
    by_cases h : q.connected = true
    · rw [if_pos h, if_pos (show (q.behind taken).connected = true from h)]
    · rw [if_neg h, if_neg (show ¬ (q.behind taken).connected = true from h)]
      exact push_behind taken { q with connected := true } .connect
  | disconnect =>
    simp only [fire, fireDisconnect]
    by_cases h : q.disconnected = true
    · rw [if_pos h, if_pos (show (q.behind taken).disconnected = true from h)]
    · rw [if_neg h, if_neg (show ¬ (q.behind taken).disconnected = true from h)]
      simp only [behind, List.append_assoc]
  | _ => exact push_behind taken q _

theorem foldl_fire_behind (taken : List Event) (q : EventQueue) (es : List Event) :
    es.foldl EventQueue.fire (q.behind taken) = (es.foldl EventQueue.fire q).behind taken := by
  induction es generalizing q with
  | nil => rfl
  | cons e es ih => rw [List.foldl_cons, fire_behind, ih, List.foldl_cons]

/-- The oldest event leaves the queue first. -/
theorem behind_of_pop? {q q' : EventQueue} {e : Event} (h : q.pop? = some (e, q'))
    (taken : List Event) : q.behind taken = q'.behind (taken ++ [e]) := by
  unfold pop? at h
  split at h
  · cases h
  next first rest hpending =>
    obtain ⟨rfl, rfl⟩ := Prod.mk.inj (Option.some.inj h)
    simp [behind, hpending]

end SessionEngine.EventQueue
