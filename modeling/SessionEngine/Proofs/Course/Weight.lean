import SessionEngine.Proofs.Course.History
import SessionEngine.Proofs.EventTrace
import Mathlib.Algebra.GroupWithZero.Nat
import Mathlib.Data.Prod.Lex

/-! How much a dispatcher has left to do. Callbacks queue events of their own: what was sent and what failed
(the echoes), and at most one disconnect. Where the callbacks for echoes send nothing and nobody else fires an
event, no move adds to the weight of a course, and telling the handler of an event takes some away
(`weight_move`). -/

namespace SessionEngine

variable {ε : Type}

/-- Whether the event is what became of something that was done. -/
def Event.isEcho : Event → Bool
  | .sent _ | .exception _ => true
  | .connect | .receive _ | .idle | .disconnect => false

/-- What an echo in the queue weighs. The callback for what was sent may panic, which queues an exception. -/
def Event.weight : Event → ℕ
  | .sent _ => 4
  | .exception _ => 2
  | .connect | .receive _ | .idle | .disconnect => 0

theorem Event.weight_pos {e : Event} (he : e.isEcho = true) : 0 < e.weight := by
  cases e with
  | sent | exception => exact Nat.succ_pos _
  | _ => cases he

/-- The callback sends nothing, whatever its actions give. -/
def Script.Sendless : Script μ ε → Prop
  | .done .. | .panic _ => True
  | .send .. => False
  | .close next | .beat _ next => ∀ result, (next result).Sendless
  | .attach _ _ next => ∀ result, (next result).Sendless
  | .inspect next => ∀ s, (next s).Sendless

/-- The callbacks for what was sent and for what failed send nothing. -/
def Handler.Moderate (h : Handler μ ε) : Prop :=
  ∀ memory e, e.isEcho = true → (h.respond memory e).Sendless

namespace EventQueue

variable {q : EventQueue} {e : Event} {es : List Event}

/-- Twice the events in the queue, and to come to it, whose callbacks may send what they like. -/
def causes (q : EventQueue) : ℕ :=
  2 * q.pending.countP (fun e => !e.isEcho) + if q.disconnected then 0 else 2

def echoes (q : EventQueue) : ℕ := (q.pending.map Event.weight).sum

/-- The disconnect was counted before it is queued. -/
theorem causes_fire (he : e.isEcho = true ∨ e = .disconnect) : (q.fire e).causes = q.causes := by
  rcases he with he | rfl
  · have hadds : (q.fire e).pending.countP (fun e => !e.isEcho) = q.pending.countP (fun e => !e.isEcho) := by
      rw [pending_fire, List.countP_append]
      split <;> simp [he]
    have hlatch : (q.fire e).disconnected = q.disconnected := by
      cases e with
      | sent | exception => exact disconnected_push q _
      | _ => cases he
    rw [causes, causes, hadds, hlatch]
  · simp only [causes, fire, fireDisconnect]
    split
    · rfl
    next hopen =>
      simp only [List.countP_append, List.countP_singleton, Event.isEcho]
      rfl

theorem causes_foldl (hes : ∀ e ∈ es, e.isEcho = true ∨ e = .disconnect) :
    (es.foldl EventQueue.fire q).causes = q.causes := by
  induction es generalizing q with
  | nil => rfl
  | cons e es ih =>
    rw [List.foldl_cons, ih fun e' he' => hes e' (List.mem_cons_of_mem _ he'),
      causes_fire (hes e List.mem_cons_self)]

theorem echoes_fire_le (q : EventQueue) (e : Event) : (q.fire e).echoes ≤ q.echoes + e.weight := by
  rw [echoes, echoes, pending_fire, List.map_append, List.sum_append]
  split <;> simp

theorem echoes_foldl_le (es : List Event) (q : EventQueue) :
    (es.foldl EventQueue.fire q).echoes ≤ q.echoes + (es.map Event.weight).sum := by
  induction es generalizing q with
  | nil => exact Nat.le_refl _
  | cons e es ih =>
    rw [List.foldl_cons, List.map_cons, List.sum_cons]
    have hfirst := echoes_fire_le q e
    have hrest := ih (q.fire e)
    omega

/-- A cause that leaves the queue counts for its callback, too. -/
theorem causes_of_pop? {q' : EventQueue} (h : q.pop? = some (e, q')) :
    q.causes = q'.causes + if e.isEcho then 0 else 2 := by
  unfold pop? at h
  split at h
  · cases h
  next first rest hpending =>
    obtain ⟨rfl, rfl⟩ := Prod.mk.inj (Option.some.inj h)
    simp only [causes, hpending, List.countP_cons]
    cases first.isEcho with
    | true => simp only [Bool.not_true, Bool.false_eq_true, if_false, if_true, Nat.add_zero]
    | false =>
      simp only [Bool.not_false, Bool.false_eq_true, if_true, if_false]
      omega

theorem echoes_of_pop? {q' : EventQueue} (h : q.pop? = some (e, q')) :
    q.echoes = e.weight + q'.echoes := by
  unfold pop? at h
  split at h
  · cases h
  next rest hpending =>
    obtain ⟨rfl, rfl⟩ := Prod.mk.inj (Option.some.inj h)
    rw [echoes, hpending, List.map_cons, List.sum_cons, echoes]

end EventQueue

namespace Dispatcher

variable {d : Dispatcher μ ε} {q : EventQueue}

/-- What is left of an echo in its callback. -/
def remnant : Dispatcher μ ε → ℕ
  | .calling e _ => e.weight - 1
  | .waiting _ | .over _ => 0

/-- What the dispatcher has left to do with a queue: first its causes, and then the echoes, which do not count
while a callback is at work that may send more. -/
def weight (q : EventQueue) (d : Dispatcher μ ε) : ℕ ×ₗ ℕ :=
  match d with
  | .calling e _ => if e.isEcho then toLex (q.causes, q.echoes + d.remnant) else toLex (q.causes + 1, 0)
  | .waiting _ | .over _ => toLex (q.causes, q.echoes)

/-- The dispatcher is at work for an echo, if for anything. -/
def Echoing (d : Dispatcher μ ε) : Prop := ∀ e script, d = .calling e script → e.isEcho = true

theorem weight_of_echoing (hd : d.Echoing) : d.weight q = toLex (q.causes, q.echoes + d.remnant) := by
  cases d with
  | calling e script => rw [weight, if_pos (hd e script rfl)]
  | _ => rfl

theorem echoing_calling {e : Event} (he : e.isEcho = true) (script : Script μ ε) :
    (calling e script).Echoing := by
  rintro e' script' ⟨⟩
  exact he

theorem echoing_after (e : Event) (memory : μ) : (after e memory : Dispatcher μ ε).Echoing :=
  fun _ _ hcall => absurd hcall after_ne_calling

theorem remnant_after (e : Event) (memory : μ) :
    (after e memory : Dispatcher μ ε).remnant = 0 := by
  unfold after
  split <;> rfl

end Dispatcher

namespace Course

variable {c : Course μ ε} {h : Handler μ ε} {e : Event} {script : Script μ ε} {n : ℕ}

def weight (c : Course μ ε) : ℕ ×ₗ ℕ := c.dispatcher.weight c.session.events

/-- The callback that is at work sends nothing if it is one for an echo. -/
def Moderate (c : Course μ ε) : Prop :=
  ∀ e script, c.dispatcher = .calling e script → e.isEcho = true → script.Sendless

theorem moderate_start (s : Session ε) (memory : μ) : (start s memory).Moderate := nofun

theorem Moderate.tell (hc : c.Moderate) (hh : h.Moderate) : (c.tell h).Moderate := by
  unfold Course.tell
  split
  next memory e events _ _ =>
    intro e' script heq he
    cases heq
    exact hh memory e he
  · exact hc

/-- An event that is told of weighs more in the queue than in its callback. -/
theorem weight_tell (c : Course μ ε) (h : Handler μ ε) : c.tell h = c ∨ (c.tell h).weight < c.weight := by
  unfold tell
  split
  next memory e events hwaiting hpop =>
    refine .inr ?_
    have hcauses := EventQueue.causes_of_pop? hpop
    have hechoes := EventQueue.echoes_of_pop? hpop
    simp only [hwaiting, weight, Dispatcher.weight]
    split
    next hecho =>
      rw [if_pos hecho] at hcauses
      have hpos := Event.weight_pos hecho
      rw [Prod.Lex.toLex_lt_toLex]
      refine .inr ⟨hcauses.symm, ?_⟩
      simp only [Dispatcher.remnant, hechoes]
      omega
    next hcause =>
      rw [if_neg hcause] at hcauses
      rw [Prod.Lex.toLex_lt_toLex, hcauses]
      exact .inl (Nat.lt_succ_self _)
  · exact .inl rfl

end Course

variable [Tls.RecordEngine ε]

/-- What a callback comes to fires echoes, and maybe the disconnect. -/
theorem Deed.OfCallback.fires {s : Session ε} {d : Deed} (hd : d.OfCallback s) (t : Session ε) (now : Nat) :
    ∀ e ∈ t.fires now d, e.isEcho = true ∨ e = .disconnect := by
  intro e he
  cases d with
  | send data =>
    simp only [Session.fires] at he
    split at he
    · exact .inl (List.mem_singleton.mp he ▸ rfl)
    · cases he
  | close =>
    simp only [Session.fires] at he
    split at he
    · exact .inr (List.mem_singleton.mp he)
    · cases he
  | fire e' =>
    obtain rfl := List.mem_singleton.mp he
    cases e with
    | exception error => exact .inl rfl
    | _ => exact hd.elim
  | attach | beat => cases he
  | _ => exact hd.elim

namespace Dispatcher

variable {d : Dispatcher μ ε} {q : EventQueue}

theorem echoing_following {e : Event} (he : e.isEcho = true) (now : Nat) (s : Session ε) (script : Script μ ε) :
    (script.following now e s).Echoing := by
  rcases Course.following_cases now e s script with ⟨rest, hrest⟩ | ⟨memory, hafter⟩
  · rw [hrest]
    exact echoing_calling he rest
  · rw [hafter]
    exact echoing_after e memory

end Dispatcher

namespace Course

variable {c : Course μ ε} {h : Handler μ ε} {e : Event} {script : Script μ ε} {n : ℕ}

theorem Moderate.act (hc : c.Moderate) (now : Nat) : (c.act now).Moderate := by
  unfold Course.act
  split
  next e script hcall =>
    intro e' rest heq he
    change script.following now e c.session = .calling e' rest at heq
    cases script with
    | done memory reply => exact absurd heq Dispatcher.after_ne_calling
    | panic memory => exact absurd heq Dispatcher.after_ne_calling
    | send data next => cases heq; exact (hc _ _ hcall he).elim
    | close next | attach ping pong next | beat slot next | inspect next =>
      cases heq
      exact hc _ _ hcall he _
  · exact hc

theorem Moderate.move (hc : c.Moderate) (hh : h.Moderate) (now : Nat) (m : Move) :
    (c.move h now m).Moderate := by
  cases m with
  | deed d => exact hc
  | tell => exact hc.tell hh
  | act => exact hc.act now

/-! ### What a move does to the weight -/

theorem weight_perform {now : Nat} {d : Deed} (hd : c.session.fires now d = []) :
    (c.perform now d).weight = c.weight := by
  rw [weight, weight, perform, Session.events_perform, hd]
  rfl

/-- The causes stay while a callback acts. -/
theorem causes_act (c : Course μ ε) (now : Nat) :
    (c.act now).session.events.causes = c.session.events.causes := by
  have hall (deeds : List Deed) (hdeeds : ∀ d ∈ deeds, d.OfCallback c.session) (c' : Course μ ε) :
      (c'.performAll now deeds).session.events.causes = c'.session.events.causes := by
    induction deeds generalizing c' with
    | nil => rfl
    | cons d deeds ih =>
      have hfirst : (c'.perform now d).session.events.causes = c'.session.events.causes := by
        rw [perform, Session.events_perform]
        exact EventQueue.causes_foldl ((hdeeds d List.mem_cons_self).fires c'.session now)
      exact (ih (fun d' hd' => hdeeds d' (List.mem_cons_of_mem _ hd')) (c'.perform now d)).trans hfirst
  unfold act
  split
  next e script _ => exact hall _ (fun d hd => Script.ofCallback_deeds hd) c
  · rfl

theorem echoes_perform_le (c : Course μ ε) (now : Nat) {d : Deed}
    (hd : ((c.session.fires now d).map Event.weight).sum ≤ n) :
    (c.perform now d).session.events.echoes ≤ c.session.events.echoes + n := by
  rw [perform, Session.events_perform]
  exact Nat.le_trans (EventQueue.echoes_foldl_le _ _) (Nat.add_le_add_left hd _)

/-- A callback that sends nothing leaves less than its echo: an exception, if it panics about what was
sent. -/
theorem echoes_act_le (hcall : c.dispatcher = .calling e script) (he : e.isEcho = true)
    (hscript : script.Sendless) (now : Nat) :
    (c.act now).session.events.echoes + (c.act now).dispatcher.remnant ≤
      c.session.events.echoes + c.dispatcher.remnant := by
  have hclose : ((c.session.fires now .close).map Event.weight).sum ≤ 0 := by
    simp only [Session.fires]
    split <;> exact Nat.le_refl _
  rw [act_of_calling hcall, hcall]
  cases script with
  | done memory reply =>
    have hdeeds : (Script.done memory reply).deeds e c.session = [] := by
      cases reply with
      | none => rfl
      | some data =>
        cases e with
        | sent | exception => rfl
        | _ => cases he
    rw [hdeeds]
    simp only [Script.following, Dispatcher.remnant_after]
    exact Nat.le_add_right _ _
  | panic memory =>
    simp only [Script.following, Dispatcher.remnant_after]
    cases e with
    | sent message => exact c.echoes_perform_le now (Nat.le_succ 2)
    | exception error => exact Nat.le_succ_of_le (c.echoes_perform_le now hclose)
    | _ => cases he
  | send data next => exact hscript.elim
  | close next => exact Nat.add_le_add_right (c.echoes_perform_le now hclose) _
  | attach ping pong next =>
    exact Nat.add_le_add_right (c.echoes_perform_le now (d := .attach ..) (Nat.le_refl 0)) _
  | beat slot next =>
    exact Nat.add_le_add_right (c.echoes_perform_le now (d := .beat slot) (Nat.le_refl 0)) _
  | inspect next => exact Nat.le_refl _

theorem weight_act_le (hc : c.Moderate) (now : Nat) : (c.act now).weight ≤ c.weight := by
  cases hcall : c.dispatcher with
  | calling e script =>
    have hcauses := c.causes_act now
    have hdispatcher : (c.act now).dispatcher = script.following now e c.session := by
      rw [act_of_calling hcall]
    by_cases he : e.isEcho = true
    · have hechoing : c.dispatcher.Echoing := by
        rw [hcall]
        exact Dispatcher.echoing_calling he script
      have hnext : (c.act now).dispatcher.Echoing := by
        rw [hdispatcher]
        exact Dispatcher.echoing_following he now c.session script
      rw [weight, weight, Dispatcher.weight_of_echoing hechoing, Dispatcher.weight_of_echoing hnext,
        Prod.Lex.toLex_le_toLex]
      exact .inr ⟨hcauses, echoes_act_le hcall he (hc e script hcall he) now⟩
    · have hweight : c.weight = toLex (c.session.events.causes + 1, 0) := by
        rw [weight, hcall, Dispatcher.weight, if_neg he]
      rw [hweight, weight, hdispatcher]
      rcases following_cases now e c.session script with ⟨rest, hrest⟩ | ⟨memory, hafter⟩
      · rw [hrest, Dispatcher.weight, if_neg he, hcauses]
      · rw [hafter, Dispatcher.weight_of_echoing (Dispatcher.echoing_after e memory),
          Prod.Lex.toLex_le_toLex, hcauses]
        exact .inl (Nat.lt_succ_self _)
  | _ =>
    simp only [act, hcall]
    exact le_refl _

theorem weight_acts_le (hc : c.Moderate) (now n : ℕ) : ((act now)^[n] c).weight ≤ c.weight := by
  induction n generalizing c with
  | zero => exact le_refl _
  | succ n ih => exact le_trans (ih (hc.act now)) (weight_act_le hc now)

/-- Where nobody fires an event but the callbacks, no move adds to the weight, and an event that is told of
takes some away. -/
theorem weight_move (h : Handler μ ε) (hc : c.Moderate) {now : Nat} {m : Move}
    (hnobody : ∀ d ∈ m.deed?, c.session.fires now d = []) :
    (c.move h now m).weight < c.weight ∨
      (c.move h now m).weight ≤ c.weight ∧ (c.move h now m).told = c.told := by
  cases m with
  | deed d => exact .inr ⟨le_of_eq (weight_perform (hnobody d rfl)), rfl⟩
  | tell =>
    rcases c.weight_tell h with hsame | hless
    · exact .inr ⟨le_of_eq (congrArg weight hsame), congrArg told hsame⟩
    · exact .inl hless
  | act => exact .inr ⟨weight_act_le hc now, c.told_act now⟩

end Course

end SessionEngine
