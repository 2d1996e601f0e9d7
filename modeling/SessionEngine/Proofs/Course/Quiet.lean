import SessionEngine.Proofs.Course

/-! Handlers whose callbacks neither write nor close. As long as the session stays connected and has
its heartbeat, all that such a handler does to it is to fire events (`session_act`). -/

namespace SessionEngine

variable {ε : Type}

/-- The callback for an event neither writes nor closes, whatever its actions give. -/
def Script.Quiet (e : Event) : Script μ ε → Prop
  | .done _ reply => reply = none ∨ e.takesReply = false
  | .panic _ => True
  | .send .. | .close _ | .beat .. => False
  | .attach _ _ next => ∀ result, (next result).Quiet e
  | .inspect next => ∀ s, (next s).Quiet e

/-- No callback writes or closes. -/
def Handler.Quiet (h : Handler μ ε) : Prop := ∀ memory e, (h.respond memory e).Quiet e

namespace Session

theorem attach_of_attached {s : Session ε} {slot : Nat} (hslot : s.heartbeatSlot? = some slot)
    (ping pong : Bytes) (role : BeatRole) : (s.attach ping pong role).2 = s := by
  rcases attach_cases s ping pong role with h | ⟨hbare, -⟩
  · exact h
  · rw [hbare] at hslot
    cases hslot

variable [Tls.RecordEngine ε]

theorem close_of_connected {s : Session ε} (hstage : s.close.2.stage = .connected) : s.close.2 = s := by
  rcases close_cases s with ⟨-, h⟩ | ⟨-, writer, tls, -, h⟩
  · exact h
  · rw [h] at hstage
    cases hstage

/-- Only establishing connects a session. -/
theorem connected_of_perform {s : Session ε} {now : Nat} {d : Deed} (hd : d ≠ .establish)
    (h : (s.perform now d).stage = .connected) : s.stage = .connected := by
  rcases stage_perform s now d with hstage | hestablish | rfl
  · rw [← hstage]
    exact h
  · exact absurd hestablish hd
  · have hclose : s.close.2 = s := close_of_connected h
    rw [← hclose]
    exact h

end Session

namespace Course

def Quiet (c : Course μ ε) : Prop := ∀ e rest, c.dispatcher = .calling e rest → rest.Quiet e

theorem quiet_start (s : Session ε) (memory : μ) : (start s memory).Quiet := by
  intro e rest h
  cases h

theorem Quiet.tell {c : Course μ ε} (hc : c.Quiet) {h : Handler μ ε} (hq : h.Quiet) : (c.tell h).Quiet := by
  unfold Course.tell
  split
  next memory e events _ _ =>
    intro e' rest heq
    cases heq
    exact hq memory e
  · exact hc

/-- Telling the handler takes an event off the queue, and nothing else changes in the session. -/
theorem session_tell (c : Course μ ε) (h : Handler μ ε) :
    (c.tell h).fired = c.fired ∧ ∃ events, (c.tell h).session = { c.session with events } := by
  unfold Course.tell
  split
  next memory e events _ _ => exact ⟨rfl, events, rfl⟩
  · exact ⟨rfl, c.session.events, rfl⟩

variable [Tls.RecordEngine ε]

theorem Quiet.act {c : Course μ ε} (hc : c.Quiet) (now : Nat) : (c.act now).Quiet := by
  unfold Course.act
  split
  next e script hcall =>
    have hscript := hc e script hcall
    intro e' rest heq
    change script.following now e c.session = .calling e' rest at heq
    cases script with
    | done memory reply => exact absurd heq Dispatcher.after_ne_calling
    | panic memory => exact absurd heq Dispatcher.after_ne_calling
    | attach ping pong next => cases heq; exact hscript _
    | inspect next => cases heq; exact hscript _
    | send data next => exact hscript.elim
    | close next => exact hscript.elim
    | beat slot next => exact hscript.elim
  · exact hc

theorem connected_of_performAll {c : Course μ ε} {now : Nat} {deeds : List Deed}
    (hdeeds : .establish ∉ deeds) (h : (c.performAll now deeds).session.stage = .connected) :
    c.session.stage = .connected := by
  induction deeds generalizing c with
  | nil => exact h
  | cons d deeds ih =>
    rw [List.mem_cons, not_or] at hdeeds
    obtain ⟨hne, hrest⟩ := hdeeds
    exact Session.connected_of_perform (Ne.symm hne) (ih (c := c.perform now d) hrest h)

theorem connected_of_act {c : Course μ ε} {now : Nat} (h : (c.act now).session.stage = .connected) :
    c.session.stage = .connected := by
  unfold Course.act at h
  split at h
  next e script _ => exact connected_of_performAll (fun hd => Script.ofCallback_deeds hd) h
  · exact h

/-- A quiet callback, in a session that is connected then and has its heartbeat, fires events at
most. -/
theorem Quiet.session_act {c : Course μ ε} (hc : c.Quiet) {slot : Nat}
    (hslot : c.session.heartbeatSlot? = some slot) {now : Nat}
    (hstage : (c.act now).session.stage = .connected) :
    ∃ events, (c.act now).session = { c.session with events } := by
  unfold Course.act at hstage ⊢
  split
  next e script hcall =>
    have hscript := hc e script hcall
    simp only [hcall, session_performAll] at hstage ⊢
    cases script with
    | done memory reply =>
      rcases hscript with rfl | htakes
      · exact ⟨_, rfl⟩
      · cases reply with
        | none => exact ⟨_, rfl⟩
        | some data =>
          simp only [Script.deeds, htakes]
          exact ⟨_, rfl⟩
    | panic memory =>
      simp only [Script.deeds] at hstage ⊢
      split at hstage
      next hlast =>
        rw [if_pos hlast]
        exact ⟨_, Session.close_of_connected hstage⟩
      next hlast =>
        rw [if_neg hlast]
        exact ⟨_, rfl⟩
    | attach ping pong next => exact ⟨_, Session.attach_of_attached hslot ..⟩
    | inspect next => exact ⟨_, rfl⟩
    | send data next => exact hscript.elim
    | close next => exact hscript.elim
    | beat slot next => exact hscript.elim
  · exact ⟨_, rfl⟩

end Course

end SessionEngine
