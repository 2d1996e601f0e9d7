import SessionEngine.Proofs.Course
import SessionEngine.Proofs.Session.Ledger
import SessionEngine.Proofs.Session.Sending

/-! Courses in which a session takes in chunks: each chunk is fed, and then the messages that are whole
are dispatched, while the handler is told and acts at any moment. `run_ofChunks` is the induction over
such a course. `aside_tell` and `aside_act` say that a handler neither adds to the buffer nor takes
anything off it. -/

namespace SessionEngine

variable {ε : Type}

/-- The operations of a socket that takes in chunks. -/
def Deed.ofChunks (chunks : List Bytes) : List Deed :=
  chunks.flatMap fun chunk => [.feed chunk, .dispatch]

/-- What a callback may do to its session. -/
def Deed.IsAnswer : Deed → Prop
  | .send _ | .close | .attach .. | .beat _ => True
  | .fire (.exception e) => ∀ fault, e ≠ .splitter fault
  | _ => False

/-- The complaint of a splitter that an event tells of. -/
def Event.fault? : Event → Option SplitFault
  | .exception (.splitter fault) => some fault
  | _ => none

namespace Course

/-- Between `c` and `c'` nothing was added to the buffer, nothing taken off it, and no message and no
complaint of a splitter was fired. -/
structure Aside (c c' : Course μ ε) : Prop where
  grows : c.session.Grows c'.session
  contents : c'.session.buffer.contents = c.session.buffer.contents
  messages : c'.fired.filterMap Event.message? = c.fired.filterMap Event.message?
  faults : c'.fired.filterMap Event.fault? = c.fired.filterMap Event.fault?
  arrival : c'.session.buffer.lastArrival = c.session.buffer.lastArrival

theorem Aside.refl (c : Course μ ε) : c.Aside c := ⟨(Session.Stays.refl _).grows, rfl, rfl, rfl, rfl⟩

theorem Aside.trans {c1 c2 c3 : Course μ ε} (h1 : c1.Aside c2) (h2 : c2.Aside c3) : c1.Aside c3 :=
  ⟨h1.grows.trans h2.grows, h2.contents.trans h1.contents, h2.messages.trans h1.messages,
    h2.faults.trans h1.faults, h2.arrival.trans h1.arrival⟩

theorem aside_tell (c : Course μ ε) (h : Handler μ ε) : c.Aside (c.tell h) := by
  unfold tell
  split
  · exact ⟨⟨rfl, rfl, fun _ hslot => hslot, List.prefix_rfl, fun hnone => hnone⟩, rfl, rfl, rfl, rfl⟩
  · exact .refl c

end Course

variable [Tls.RecordEngine ε]

def Session.Admits (s : Session ε) (now : Nat) : Deed → Prop
  | .feed data => (s.feed now data).1 = .ok ()
  | _ => True

instance (s : Session ε) (now : Nat) (d : Deed) : Decidable (s.Admits now d) := by
  unfold Session.Admits
  split <;> infer_instance

theorem Deed.OfCallback.isAnswer {s : Session ε} (hplain : s.tls = none) {d : Deed}
    (hd : d.OfCallback s) : d.IsAnswer := by
  cases d with
  | fire e =>
    cases e with
    | exception error =>
      rintro fault rfl
      rcases hd with ⟨callback, hpanic⟩ | ⟨data, hsend⟩
      · cases hpanic
      · rcases Session.send_error_cases hplain hsend with h | h | ⟨cause, h⟩ <;> cases h
    | _ => exact hd.elim
  | send data | close | attach ping pong role | beat slot => trivial
  | _ => exact hd.elim

namespace Session

theorem silent_fires {s : Session ε} {now : Nat} {d : Deed} (hd : d.IsAnswer) {e : Event}
    (he : e ∈ s.fires now d) : e.message? = none ∧ e.fault? = none := by
  cases d with
  | fire event =>
    obtain rfl := List.mem_singleton.mp he
    cases e with
    | exception error =>
      refine ⟨rfl, ?_⟩
      cases error with
      | splitter fault => exact absurd rfl (hd fault)
      | _ => rfl
    | _ => exact hd.elim
  | send data =>
    simp only [fires] at he
    split at he
    · obtain rfl := List.mem_singleton.mp he
      exact ⟨rfl, rfl⟩
    · cases he
  | close =>
    simp only [fires] at he
    split at he
    · obtain rfl := List.mem_singleton.mp he
      exact ⟨rfl, rfl⟩
    · cases he
  | attach ping pong role => cases he
  | beat slot => cases he
  | _ => exact hd.elim

theorem contents_answer {s : Session ε} (hplain : s.tls = none) {d : Deed} (hd : d.IsAnswer) (now : Nat) :
    (s.perform now d).buffer.contents = s.buffer.contents := by
  have hidle : s.intake now d = [] ∧ s.outlay now d = [] := by
    cases d with
    | send data => exact ⟨rfl, rfl⟩
    | close => exact ⟨rfl, rfl⟩
    | attach ping pong role => exact ⟨rfl, rfl⟩
    | beat slot => exact ⟨rfl, rfl⟩
    | fire e => exact ⟨rfl, rfl⟩
    | _ => exact hd.elim
  have hbalance := balance_perform hplain now d
  rw [hidle.1, hidle.2, List.append_nil] at hbalance
  exact hbalance.symm

theorem arrival_answer (s : Session ε) {d : Deed} (hd : d.IsAnswer) (now : Nat) :
    (s.perform now d).buffer.lastArrival = s.buffer.lastArrival := by
  cases d with
  | send data => exact congrArg Buffer.lastArrival (buffer_send s data)
  | close =>
    simp only [perform]
    rcases close_cases s with ⟨-, h⟩ | ⟨-, writer, tls, -, h⟩
    · rw [h]
    · rw [h]
      exact Buffer.lastArrival_close s.buffer
  | attach ping pong role => exact congrArg Buffer.lastArrival (buffer_attach s ping pong role)
  | beat slot => exact congrArg Buffer.lastArrival (buffer_beat s now slot)
  | fire e => rfl
  | _ => exact hd.elim

end Session

namespace Course

theorem grows_performAll (c : Course μ ε) (now : Nat) (deeds : List Deed) :
    c.session.Grows (c.performAll now deeds).session := by
  induction deeds generalizing c with
  | nil => exact (Session.Stays.refl c.session).grows
  | cons d deeds ih => exact (Session.grows_perform c.session now d).trans (ih (c.perform now d))

theorem grows_act (c : Course μ ε) (now : Nat) : c.session.Grows (c.act now).session := by
  unfold act
  split
  next e script _ => exact grows_performAll c now (script.deeds e c.session)
  · exact (Session.Stays.refl _).grows

theorem aside_perform {c : Course μ ε} (hplain : c.session.tls = none) {d : Deed} (hd : d.IsAnswer)
    (now : Nat) : c.Aside (c.perform now d) := by
  refine ⟨Session.grows_perform c.session now d, Session.contents_answer hplain hd now, ?_, ?_,
    Session.arrival_answer c.session hd now⟩
  · simp only [perform, List.filterMap_append]
    rw [List.filterMap_eq_nil_iff.mpr fun e he => (Session.silent_fires hd he).1, List.append_nil]
  · simp only [perform, List.filterMap_append]
    rw [List.filterMap_eq_nil_iff.mpr fun e he => (Session.silent_fires hd he).2, List.append_nil]

theorem aside_performAll {c : Course μ ε} (hplain : c.session.tls = none) {deeds : List Deed}
    (hdeeds : ∀ d ∈ deeds, d.IsAnswer) (now : Nat) : c.Aside (c.performAll now deeds) := by
  induction deeds generalizing c with
  | nil => exact .refl c
  | cons d deeds ih =>
    have hstep := aside_perform hplain (hdeeds d List.mem_cons_self) now
    have hrest : ∀ d' ∈ deeds, d'.IsAnswer := fun d' hd' => hdeeds d' (List.mem_cons_of_mem d hd')
    exact hstep.trans (ih (hstep.grows.plain hplain) hrest)

theorem aside_act {c : Course μ ε} (hplain : c.session.tls = none) (now : Nat) : c.Aside (c.act now) := by
  unfold act
  split
  next e script _ =>
    have hanswers : ∀ d ∈ script.deeds e c.session, d.IsAnswer :=
      fun d hd => (Script.ofCallback_deeds hd).isAnswer hplain
    have hall := aside_performAll hplain hanswers now
    exact ⟨hall.grows, hall.contents, hall.messages, hall.faults, hall.arrival⟩
  · exact .refl c

/-- No feed on the way is refused. -/
def Admits (h : Handler μ ε) : Course μ ε → List (Nat × Move) → Prop
  | _, [] => True
  | c, m :: moves => (∀ d ∈ m.2.deed?, c.session.Admits m.1 d) ∧ (c.move h m.1 m.2).Admits h moves

instance Admits.decide (h : Handler μ ε) : (c : Course μ ε) → (moves : List (Nat × Move)) →
    Decidable (c.Admits h moves)
  | _, [] => isTrue trivial
  | c, m :: moves =>
    have := Admits.decide h (c.move h m.1 m.2) moves
    inferInstanceAs (Decidable (_ ∧ _))

/-- The induction over a course that takes in chunks. What holds at its end (`P false`), and between a
feed and the dispatch that follows it (`P true`), is kept by every move. -/
theorem run_ofChunks {h : Handler μ ε} {P : Bool → Bytes → Course μ ε → Prop}
    (htell : ∀ {due fed c}, P due fed c → P due fed (c.tell h))
    (hact : ∀ {due fed c} now, P due fed c → P due fed (c.act now))
    (hfeed : ∀ {fed c} now data, P false fed c → (c.session.feed now data).1 = .ok () →
      P true (fed ++ data) (c.perform now (.feed data)))
    (hdispatch : ∀ {fed c} now, P true fed c → P false fed (c.perform now .dispatch))
    {c : Course μ ε} (hc : P false [] c) {chunks : List Bytes} {moves : List (Nat × Move)}
    (hmoves : moves.filterMap (·.2.deed?) = Deed.ofChunks chunks) (hadmits : c.Admits h moves) :
    P false chunks.flatten (c.run h moves) := by
  -- Feeds and dispatches alternate, so what is due is told by the operations to come.
  suffices hrun : ∀ (moves : List (Nat × Move)) (due : Bool) (fed : Bytes) (chunks : List Bytes)
      (c : Course μ ε), P due fed c → moves.filterMap (·.2.deed?) =
        (if due then [.dispatch] else []) ++ Deed.ofChunks chunks → c.Admits h moves →
      P false (fed ++ chunks.flatten) (c.run h moves) from
    hrun moves false [] chunks c hc hmoves hadmits
  intro moves
  induction moves with
  | nil =>
    intro due fed chunks c hc hmoves _
    cases due with
    | true => cases hmoves
    | false =>
      cases chunks with
      | nil => rw [List.flatten_nil, List.append_nil]; exact hc
      | cons chunk chunks => cases hmoves
  | cons m moves ih =>
    intro due fed chunks c hc hmoves hadmits
    obtain ⟨now, m⟩ := m
    obtain ⟨hfirst, hadmits⟩ := hadmits
    cases m with
    | tell => exact ih due fed chunks _ (htell hc) hmoves hadmits
    | act => exact ih due fed chunks _ (hact now hc) hmoves hadmits
    | deed d =>
      rw [List.filterMap_cons_some (by rfl)] at hmoves
      cases due with
      | true =>
        obtain ⟨rfl, hlater⟩ := List.cons.inj hmoves
        exact ih false fed chunks _ (hdispatch now hc) hlater hadmits
      | false =>
        cases chunks with
        | nil => cases hmoves
        | cons chunk chunks =>
          obtain ⟨rfl, hlater⟩ := List.cons.inj hmoves
          have hfed := hfeed now chunk hc (hfirst _ rfl)
          have hrest := ih true (fed ++ chunk) chunks _ hfed hlater hadmits
          rw [List.flatten_cons, ← List.append_assoc]
          exact hrest

end Course

end SessionEngine
