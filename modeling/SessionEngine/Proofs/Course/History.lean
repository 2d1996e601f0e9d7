import SessionEngine.Proofs.Course

/-! The history of a course: every operation that was done along it, by whomever, with the session that
it was done to. `run_history` is the induction over a course and its history, one operation at a time. -/

namespace SessionEngine

variable {ε : Type}

/-- An operation at a time, and the session that it is done to. -/
structure Step (ε : Type) where
  session : Session ε
  time : Nat
  deed : Deed

namespace Course

/-- An event that is told of was queued before; nothing else changes in the session. -/
theorem queued_tell (c : Course μ ε) (h : Handler μ ε) :
    (c.tell h).queued = c.queued ∧ ∃ events, (c.tell h).session = { c.session with events } ∧
      events.disconnected = c.session.events.disconnected := by
  unfold tell
  split
  next memory e events _ hpop =>
    unfold EventQueue.pop? at hpop
    split at hpop
    · cases hpop
    next hpending =>
      obtain ⟨rfl, rfl⟩ := Prod.mk.inj (Option.some.inj hpop)
      refine ⟨?_, _, rfl, rfl⟩
      rw [queued, queued, hpending, List.append_assoc]
      rfl
  · exact ⟨rfl, _, rfl, rfl⟩

end Course

variable [Tls.RecordEngine ε]

namespace Step

def after (st : Step ε) : Session ε := st.session.perform st.time st.deed

def fires (st : Step ε) : List Event := st.session.fires st.time st.deed

end Step

namespace Course

/-- The operations that a move comes to, in order. -/
def deeds (c : Course μ ε) : Move → List Deed
  | .deed d => [d]
  | .tell => []
  | .act =>
    match c.dispatcher with
    | .calling e script => script.deeds e c.session
    | _ => []

def trail (now : Nat) : Session ε → List Deed → List (Step ε)
  | _, [] => []
  | s, d :: deeds => ⟨s, now, d⟩ :: trail now (s.perform now d) deeds

/-- The operations that moves come to, in order. -/
def history (h : Handler μ ε) : Course μ ε → List (Nat × Move) → List (Step ε)
  | _, [] => []
  | c, (now, m) :: moves => trail now c.session (c.deeds m) ++ (c.move h now m).history h moves

section Induction

variable (P : Course μ ε → List (Step ε) → Prop) (Allowed : Deed → Prop)
  (hperform : ∀ {c steps} now d, Allowed d → P c steps →
    P (c.perform now d) (steps ++ [⟨c.session, now, d⟩]))

include hperform

theorem performAll_trail {now : Nat} {deeds : List Deed} (hdeeds : ∀ d ∈ deeds, Allowed d)
    {c : Course μ ε} {steps : List (Step ε)} (hc : P c steps) :
    P (c.performAll now deeds) (steps ++ trail now c.session deeds) := by
  induction deeds generalizing c steps with
  | nil => rwa [trail, List.append_nil]
  | cons d deeds ih =>
    have hfirst := hperform now d (hdeeds d List.mem_cons_self) hc
    have hrest := ih (fun d' hd' => hdeeds d' (List.mem_cons_of_mem d hd')) hfirst
    rwa [List.append_assoc] at hrest

/-- The induction over a course and its history: what every operation keeps that a callback comes to or
that is allowed to the owner, and what telling the handler keeps, holds at the end. -/
theorem run_history (hcallback : ∀ {s : Session ε} {d}, Deed.OfCallback s d → Allowed d) {h : Handler μ ε}
    (htell : ∀ {c steps}, P c steps → P (c.tell h) steps)
    (hturn : ∀ {c steps} dispatcher, P c steps → P { c with dispatcher } steps)
    {moves : List (Nat × Move)} (hmoves : ∀ m ∈ moves, ∀ d ∈ m.2.deed?, Allowed d) {c : Course μ ε}
    (steps : List (Step ε)) (hc : P c steps) :
    P (c.run h moves) (steps ++ c.history h moves) := by
  induction moves generalizing c steps with
  | nil => rwa [history, List.append_nil]
  | cons m moves ih =>
    obtain ⟨now, m⟩ := m
    have hlater : ∀ m ∈ moves, ∀ d ∈ m.2.deed?, Allowed d :=
      fun m' hm' => hmoves m' (List.mem_cons_of_mem _ hm')
    have hmove : P (c.move h now m) (steps ++ trail now c.session (c.deeds m)) := by
      cases m with
      | deed d => exact hperform now d (hmoves _ List.mem_cons_self d rfl) hc
      | tell =>
        rw [show trail now c.session (c.deeds .tell) = [] from rfl, List.append_nil]
        exact htell hc
      | act =>
        cases hcall : c.dispatcher with
        | calling e script =>
          have hdeeds : c.deeds .act = script.deeds e c.session := by simp only [deeds, hcall]
          rw [hdeeds, move, act_of_calling hcall]
          exact hturn _ (performAll_trail P Allowed hperform
            (fun d hd => hcallback (Script.ofCallback_deeds hd)) hc)
        | _ =>
          have hdeeds : c.deeds .act = [] := by simp only [deeds, hcall]
          have hact : c.move h now .act = c := by simp only [move, act, hcall]
          rwa [hdeeds, hact, trail, List.append_nil]
    have hrest := ih hlater _ hmove
    rw [List.append_assoc] at hrest
    exact hrest

end Induction

/-- What every operation keeps, and telling the handler too, holds at the end of a course. -/
theorem run_keeps (P : Course μ ε → Prop) (hperform : ∀ {c} now d, P c → P (c.perform now d))
    {h : Handler μ ε} (htell : ∀ {c}, P c → P (c.tell h))
    (hturn : ∀ {c} dispatcher, P c → P { c with dispatcher }) {moves : List (Nat × Move)}
    {c : Course μ ε} (hc : P c) : P (c.run h moves) :=
  run_history (fun c' _ => P c') (fun _ => True) (fun now d _ hc' => hperform now d hc')
    (fun _ => trivial) htell hturn (fun _ _ _ _ => trivial) [] hc

theorem grows_run (h : Handler μ ε) (moves : List (Nat × Move)) (c : Course μ ε) :
    c.session.Grows (c.run h moves).session := by
  refine run_keeps (fun c' => c.session.Grows c'.session)
    (fun {c'} now d hc => hc.trans (Session.grows_perform c'.session now d)) (fun {c'} hc => ?_)
    (fun _ hc => hc) (Session.Stays.refl c.session).grows
  obtain ⟨-, events, htell, -⟩ := c'.queued_tell h
  rw [htell]
  exact hc.trans ⟨rfl, rfl, fun _ hslot => hslot, List.prefix_rfl, fun hplain => hplain⟩

end Course

end SessionEngine
